import ReferenceSite.Code.FirstLine

/-! The languages that code blocks can be in, and how the language of a block is picked: by the word
that its author wrote behind the fence, else by the first line of the code. -/
namespace ReferenceSite.Code
open ReferenceSite.Text

structure Grammar where
  name : String
  extensions : List String
  /-- The scope of all its text, as names with dots between them. -/
  scope : String
  detects : List Char → Bool

def Grammar.plainText : Grammar := ⟨"Plain Text",["txt"],"text.plain",fun _ => false⟩

namespace Grammar

def undetected (name : String) (extensions : List String) (scope : String) : Grammar :=
  ⟨name,extensions,scope,fun _ => false⟩

open FirstLine in
/-- All languages. Where two share an extension or a first line, the earlier one is picked. -/
def all : List Grammar := [
  ⟨"YAML",["yaml","yml","sublime-syntax"],"source.yaml",
    fun s => (dropPrefix? "%YAML".toList s).isSome⟩,
  ⟨"XML",["xml","xsd","xslt","tld","dtml","rss","opml","svg"],"text.xml",isXml⟩,
  ⟨"Textile",["textile"],"text.html.textile",contains "textile"⟩,
  plainText,
  undetected "Tcl" ["tcl"] "source.tcl",
  undetected "HTML (Tcl)" ["adp"] "text.html.tcl",
  undetected "commands-builtin-shell-bash" [] "commands.builtin.shell.bash",
  undetected "Shell-Unix-Generic" [] "source.shell",
  ⟨"Bourne Again Shell (bash)",["sh","bash","zsh","fish",".bash_aliases",".bash_completions",
    ".bash_functions",".bash_login",".bash_logout",".bash_profile",".bash_variables",".bashrc",
    ".profile",".textmate_init",".zshrc"],"source.shell.bash",isShell⟩,
  undetected "Scala" ["scala","sbt"] "source.scala",
  undetected "SQL" ["sql","ddl","dml"] "source.sql",
  undetected "Rust" ["rs"] "source.rust",
  ⟨"Ruby",["rb","Appfile","Appraisals","Berksfile","Brewfile","capfile","cgi","Cheffile",
    "config.ru","Deliverfile","Fastfile","fcgi","Gemfile","gemspec","Guardfile","irbrc",
    "jbuilder","podspec","prawn","rabl","rake","Rakefile","Rantfile","rbx","rjs",
    "ruby.rail","Scanfile","simplecov","Snapfile","thor","Thorfile","Vagrantfile"],
    "source.ruby",isRuby⟩,
  undetected "reStructuredText" ["rst","rest"] "text.restructuredtext",
  undetected "Regular Expression" ["re"] "source.regexp",
  undetected "SQL (Rails)" ["erbsql","sql.erb"] "source.sql.ruby",
  undetected "Ruby on Rails" ["rxml","builder"] "source.ruby.rails",
  undetected "Ruby Haml" ["haml","sass"] "text.haml",
  undetected "JavaScript (Rails)" ["js.erb"] "source.js.rails",
  undetected "HTML (Rails)" ["rails","rhtml","erb","html.erb"] "text.html.ruby",
  undetected "Rd (R Documentation)" ["rd"] "text.tex.latex.rd",
  undetected "R" ["R","r","s","S","Rprofile"] "source.r",
  ⟨"Python",["py","py3","pyw","pyi","pyx","pyx.in","pxd","pxd.in","pxi","pxi.in","rpy",
    "cpy","SConstruct","Sconstruct","sconstruct","SConscript","gyp","gypi","Snakefile",
    "wscript"],"source.python",isPython⟩,
  ⟨"Perl",["pl","pm","pod","t","PL"],"source.perl",runs "perl"⟩,
  undetected "Pascal" ["pas","p","dpr"] "source.pascal",
  ⟨"PHP",["php","php3","php4","php5","php7","phps","phpt","phtml"],"embedding.php",isPhp⟩,
  undetected "Objective-C" ["m","h"] "source.objc",
  undetected "Objective-C++" ["mm","M","h"] "source.objc++",
  undetected "camlp4" [] "source.camlp4.ocaml",
  undetected "OCamlyacc" ["mly"] "source.ocamlyacc",
  undetected "OCamllex" ["mll"] "source.ocamllex",
  undetected "OCaml" ["ml","mli"] "source.ocaml",
  undetected "MATLAB" ["matlab"] "source.matlab",
  ⟨"MultiMarkdown",[],"text.html.markdown.multimarkdown",isMultiMarkdown⟩,
  undetected "Markdown" ["md","mdown","markdown","markdn"] "text.html.markdown",
  ⟨"Makefile",["make","GNUmakefile","makefile","Makefile","OCamlMakefile","mak","mk"],
    "source.makefile",runs "make"⟩,
  ⟨"Lua",["lua"],"source.lua",runs "lua"⟩,
  undetected "Lisp" ["lisp","cl","clisp","l","mud","el","scm","ss","lsp","fasl"] "source.lisp",
  undetected "TeX" ["sty","cls"] "text.tex",
  ⟨"LaTeX",["tex","ltx"],"text.tex.latex",isLatex⟩,
  ⟨"LaTeX Log",[],"text.log.latex",isLatexLog⟩,
  undetected "BibTeX" ["bib"] "text.bibtex",
  ⟨"JavaScript",["js","htc"],"source.js",isJavaScript⟩,
  undetected "JavaDoc" [] "text.html.javadoc",
  undetected "Java Server Page (JSP)" ["jsp"] "text.html.jsp",
  undetected "Java Properties" ["properties"] "source.java-props",
  undetected "Java" ["java","bsh"] "source.java",
  undetected "JSON" ["json","sublime-settings","sublime-menu","sublime-keymap",
    "sublime-mousemap","sublime-theme","sublime-build","sublime-project","sublime-completions",
    "sublime-commands","sublime-macro","sublime-color-scheme"] "source.json",
  undetected "Literate Haskell" ["lhs"] "text.tex.latex.haskell",
  undetected "Haskell" ["hs"] "source.haskell",
  ⟨"HTML",["html","htm","shtml","xhtml","inc","tmpl","tpl"],"text.html.basic",isHtml⟩,
  undetected "Groovy" ["groovy","gvy","gradle","Jenkinsfile"] "source.groovy",
  undetected "Graphviz (DOT)" ["dot","DOT","gv"] "source.dot",
  ⟨"Go",["go"],"source.go",hasMode "Go"⟩,
  undetected "HTML (Erlang)" ["yaws"] "text.html.erlang.yaws",
  undetected "Erlang" ["erl","hrl","Emakefile","emakefile"] "source.erlang",
  ⟨"Diff",["diff","patch"],"source.diff",isDiff⟩,
  ⟨"D",["d","di"],"source.d",isD⟩,
  undetected "Clojure" ["clj"] "source.clojure",
  undetected "CSS" ["css","css.erb","css.liquid"] "source.css",
  ⟨"C",["c","h"],"source.c",hasMode "C"⟩,
  ⟨"C++",["cpp","cc","cp","cxx","c++","C","h","hh","hpp","hxx","h++","inl","ipp"],
    "source.c++",contains "-*- C++ -*-"⟩,
  undetected "NAnt Build File" ["build"] "source.nant-build",
  undetected "C#" ["cs","csx"] "source.cs",
  undetected "Batch File" ["bat","cmd"] "source.dosbatch",
  ⟨"AppleScript",["applescript","script editor"],"source.applescript",isAppleScript⟩,
  undetected "ActionScript" ["as"] "source.actionscript.2",
  undetected "HTML (ASP)" ["asp"] "text.html.asp",
  undetected "ASP" ["asa"] "source.asp"]

def sameName (a b : String) : Bool := a.map Char.toLower = b.map Char.toLower

def ofToken? (token : String) : Option Grammar :=
  (all.find? fun g => g.extensions.any (sameName token)).or (all.find? fun g => sameName token g.name)

def token? (info : String) : Option String :=
  let word := (trimStart info.toList).takeWhile (! isBlank ·)
  if word.isEmpty then none else some (.ofList word)

def pick (info code : String) : Grammar :=
  match (token? info).bind ofToken? with
  | some g => g
  | none =>
    let first := (lines code.toList).headD []
    (all.find? fun g => g.detects first).getD plainText

end Grammar
end ReferenceSite.Code
