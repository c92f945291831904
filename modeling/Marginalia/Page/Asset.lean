import Marginalia.Text.Basic

/-!
# Files that are the same for every site
-/

namespace Marginalia.Page

def stylesheetLines : List String :=
  ["/* Layout and typography */",
   "body \x7b",
   "  font-family: Georgia, \"Palatino Linotype\", Palatino, serif;",
   "  font-size: 15px;",
   "  line-height: 22px;",
   "  color: #252519;",
   "  margin: 0;",
   "  padding: 0;",
   "\x7d",
   "a, a:visited \x7b",
   "  color: #261a3b;",
   "\x7d",
   "p \x7b",
   "  margin: 0 0 15px 0;",
   "\x7d",
   "p.footnote \x7b",
   "  font-size: 0.7rem;",
   "  color: rgba(0, 0, 0, 0.6);",
   "\x7d",
   "h1, h2, h3, h4, h5, h6 \x7b",
   "  margin: 0 0 15px 0;",
   "\x7d",
   "h1 \x7b",
   "  margin-top: 40px;",
   "\x7d",
   "#container \x7b",
   "  position: relative;",
   "\x7d",
   "#background \x7b",
   "  position: fixed;",
   "  top: 0; left: 525px; right: 0; bottom: 0;",
   "  background: #f5f5ff;",
   "  border-left: 1px solid #e5e5ee;",
   "  z-index: -1;",
   "\x7d",
   "#content \x7b",
   "  padding: 10px 25px 1px 50px;",
   "  width: 465px;",
   "\x7d",
   "",
   "/* Other revisions menu */",
   "#jump_to, #jump_page \x7b",
   "  background: white;",
   "  box-shadow: 0 0 25px #777;",
   "  border-bottom-left-radius: 5px;",
   "  font: 10px Arial, sans-serif;",
   "  text-transform: uppercase;",
   "  cursor: pointer;",
   "  text-align: right;",
   "\x7d",
   "#jump_to, #jump_wrapper \x7b",
   "  position: fixed;",
   "  right: 0; top: 0;",
   "  padding: 5px 10px;",
   "\x7d",
   "#jump_wrapper \x7b",
   "  padding: 0;",
   "  display: none;",
   "\x7d",
   "#jump_to:hover #jump_wrapper \x7b",
   "  display: block;",
   "\x7d",
   "#jump_page \x7b",
   "  padding: 5px 0 3px;",
   "  margin: 0 0 25px 25px;",
   "\x7d",
   "#jump_page .source \x7b",
   "  display: block;",
   "  padding: 5px 10px;",
   "  text-decoration: none;",
   "  border-top: 1px solid #eee;",
   "\x7d",
   "#jump_page .source:hover \x7b",
   "  background: #f5f5ff;",
   "\x7d",
   "",
   "/* Sections */",
   "th \x7b",
   "  font-weight: normal;",
   "\x7d",
   "table td \x7b",
   "  border: 0;",
   "  outline: 0;",
   "\x7d",
   "td.docs, th.docs \x7b",
   "  max-width: 450px;",
   "  min-width: 450px;",
   "  min-height: 5px;",
   "  padding: 10px 25px 1px 50px;",
   "  overflow-x: hidden;",
   "  vertical-align: top;",
   "  text-align: left;",
   "\x7d",
   ".docs pre \x7b",
   "  margin: 15px 0;",
   "  padding-left: 15px;",
   "\x7d",
   ".docs p code \x7b",
   "  background: #f8f8ff;",
   "  border: 1px solid #dedede;",
   "  font-size: 12px;",
   "  padding: 0 0.2em;",
   "\x7d",
   ".pilwrap \x7b",
   "  position: relative;",
   "\x7d",
   ".pilcrow \x7b",
   "  font: 12px Arial, sans-serif;",
   "  text-decoration: none;",
   "  color: #454545;",
   "  position: absolute;",
   "  top: 3px; left: -20px;",
   "  padding: 1px 2px;",
   "  opacity: 0;",
   "  transition: opacity 0.2s linear;",
   "\x7d",
   "td.docs:hover .pilcrow \x7b",
   "  opacity: 1;",
   "\x7d",
   "td.code, th.code \x7b",
   "  padding: 14px 15px 16px 25px;",
   "  width: 100%;",
   "  vertical-align: top;",
   "  background: #f5f5ff;",
   "  border-left: 1px solid #e5e5ee;",
   "\x7d",
   "pre, code \x7b",
   "  font-size: 12px;",
   "  line-height: 18px;",
   "  font-family: Menlo, Monaco, Consolas, \"Lucida Console\", monospace;",
   "  margin: 0;",
   "  padding: 0;",
   "\x7d",
   "",
   "/* Syntax highlighting */",
   ".highlight .c1 \x7b color: #408080; font-style: italic \x7d  /* comment */",
   ".highlight .k \x7b color: #954121 \x7d                       /* keyword */",
   ".highlight .kd \x7b color: #954121; font-weight: bold \x7d   /* keyword.function */",
   ".highlight .kc \x7b color: #954121 \x7d                      /* boolean, constant.builtin */",
   ".highlight .kt \x7b color: #b00040 \x7d                      /* type */",
   ".highlight .ow \x7b color: #aa22ff; font-weight: bold \x7d   /* keyword.operator */",
   ".highlight .o \x7b color: #666666 \x7d                       /* operator */",
   ".highlight .p \x7b color: #444444 \x7d                       /* punctuation */",
   ".highlight .m \x7b color: #666666 \x7d                       /* number */",
   ".highlight .s \x7b color: #219161 \x7d                       /* string */",
   ".highlight .se \x7b color: #bb6622; font-weight: bold \x7d   /* escape */",
   ".highlight .sr \x7b color: #bb6688 \x7d                      /* string.special */",
   ".highlight .na \x7b color: #7d9029 \x7d                      /* property */",
   ".highlight .nb \x7b color: #954121 \x7d                      /* function.builtin */",
   ".highlight .nc \x7b color: #0000ff; font-weight: bold \x7d   /* constructor */",
   ".highlight .nd \x7b color: #aa22ff \x7d                      /* attribute */",
   ".highlight .nf \x7b color: #0000ff \x7d                      /* function */",
   ".highlight .nl \x7b color: #a0a000 \x7d                      /* label */",
   ".highlight .nn \x7b color: #0000ff; font-weight: bold \x7d   /* module */",
   ".highlight .no \x7b color: #880000 \x7d                      /* constant */",
   ".highlight .nt \x7b color: #954121; font-weight: bold \x7d   /* tag */",
   ".highlight .nv \x7b color: #19469d \x7d                      /* variable */",
   ".highlight .bp \x7b color: #954121 \x7d                      /* variable.builtin */"]

def stylesheet : Text :=
  stylesheetLines.flatMap fun line => line.toList ++ ['\n']

/-- The empty file that has a site served as it is. -/
def markerName : Text := ".nojekyll"

end Marginalia.Page
