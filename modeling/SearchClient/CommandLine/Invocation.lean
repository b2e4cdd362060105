import SearchClient.CommandLine.Grammar

set_option autoImplicit false

/-! # Invocations

The grammar of the program, and what a command line in it asks for: overrides of settings, and one
command with its arguments. A flag that is given again replaces what it said before, or adds to it
where it may be repeated. -/

namespace SearchClient.CommandLine

/-! ## The grammar -/

/-- The name of the program. -/
def programName : String :=
  "bright"

/-- The name and version of the program. -/
def versionText : String :=
  "bright 0.1.0"

/-- The flag that asks for help. -/
def helpFlag : Flag :=
  { name := "help", spellings := ["-h", "--help"], effect := .help }

/-- A flag with an argument. -/
def valueFlag (name : String) (spellings : List String) (accepts : Accepts := .anything) : Flag :=
  { name, spellings, effect := .takes accepts }

/-- A command with operands, and flags besides that for help. -/
def leaf (operands : List String) (flags : List Flag) : Grammar :=
  .node (helpFlag :: flags) (operands.map fun name => { name }) none

/-- A choice of actions. -/
def actions (commands : List (String × Grammar)) : Grammar :=
  .node [helpFlag] [] (some ("action", commands))

/-- The flag for a primary key. -/
def primaryKeyFlag : Flag :=
  valueFlag "primary_key" ["--primary-key"]

/-- The commands on indexes. -/
def indexGrammar : Grammar :=
  actions
    [("create", leaf ["index_id"] [primaryKeyFlag]),
     ("get", leaf ["index_id"] []),
     ("delete", leaf ["index_id"] []),
     ("exists", leaf ["index_id"] [])]

/-- The commands on documents. -/
def documentsGrammar : Grammar :=
  actions
    [("add", leaf ["index_id", "file"] [primaryKeyFlag]),
     ("delete", leaf ["index_id"] [valueFlag "ids" ["--id"], valueFlag "filter" ["--filter"]])]

/-- The command for searches. -/
def searchGrammar : Grammar :=
  .node
    [helpFlag,
     valueFlag "filters" ["--filter", "-f"],
     valueFlag "ranges" ["--range", "-r"],
     valueFlag "sort" ["--sort", "-s"],
     valueFlag "offset" ["--offset"] .integer,
     valueFlag "limit" ["--limit", "-l"] .integer,
     valueFlag "page" ["--page"] .integer,
     valueFlag "retrieve" ["--retrieve"],
     valueFlag "exclude" ["--exclude"]]
    [{ name := "index_id" }, { name := "query", optional := true }] none

/-- A command on one ingress. -/
def oneIngress : Grammar :=
  leaf ["index_id", "ingress_id"] []

/-- The commands on ingresses. -/
def ingressGrammar : Grammar :=
  actions
    [("list", leaf ["index_id"] []),
     ("create", leaf ["index_id", "file"] []),
     ("get", oneIngress),
     ("exists", oneIngress),
     ("pause", oneIngress),
     ("resume", oneIngress),
     ("resync", oneIngress),
     ("delete", oneIngress)]

/-- The grammar of the program. -/
def grammar : Grammar :=
  .node
    [helpFlag,
     valueFlag "config" ["--config", "-c"],
     valueFlag "url" ["--url"],
     valueFlag "api_key" ["--api-key"],
     valueFlag "log_level" ["--log-level"] (.oneOf ["debug", "info", "warning", "error"]),
     valueFlag "log_format" ["--log-format"] (.oneOf ["json", "console"]),
     { name := "version", spellings := ["--version"], effect := .version }]
    []
    (some ("command",
      [("index", indexGrammar), ("documents", documentsGrammar), ("search", searchGrammar),
       ("ingress", ingressGrammar)]))

/-! ## What is asked for -/

/-- The arguments of a search. -/
structure SearchArguments where
  index : String
  query : Option String
  filters : List String
  ranges : List String
  sort : List String
  offset : Option Int
  limit : Option Int
  page : Option Int
  retrieve : List String
  exclude : List String
deriving DecidableEq

/-- A command with its arguments. A file or an ingress may have been given without a text. -/
inductive Command where
  | createIndex (index : String) (primaryKey : Option String)
  | getIndex (index : String)
  | deleteIndex (index : String)
  | indexExists (index : String)
  | addDocuments (index : String) (file : Option String) (primaryKey : Option String)
  | deleteDocuments (index : String) (ids : List String) (filter : Option String)
  | search (arguments : SearchArguments)
  | listIngresses (index : String)
  | createIngress (index : String) (file : Option String)
  | getIngress (index : String) (ingress : Option String)
  | ingressExists (index : String) (ingress : Option String)
  | pauseIngress (index : String) (ingress : Option String)
  | resumeIngress (index : String) (ingress : Option String)
  | resyncIngress (index : String) (ingress : Option String)
  | deleteIngress (index : String) (ingress : Option String)
deriving DecidableEq

/-- Overrides of settings, and a command. -/
structure Invocation where
  config : Option String
  url : Option String
  apiKey : Option String
  logLevel : Option String
  logFormat : Option String
  command : Command
deriving DecidableEq

namespace Reading

/-- All texts of a name. -/
def all (r : Reading) (name : String) : List String :=
  (r.given.filter (·.1 = name)).filterMap (·.2)

/-- The last text of a name. -/
def last? (r : Reading) (name : String) : Option String :=
  (r.all name).getLast?

/-- The last text of a name, empty if there is none. -/
def text (r : Reading) (name : String) : String :=
  (r.last? name).getD ""

/-- The last text of a name as an integer. -/
def int? (r : Reading) (name : String) : Option Int :=
  (r.last? name).bind Literal.int?

/-- The arguments of a search. -/
def searchArguments (r : Reading) : SearchArguments :=
  { index := r.text "index_id"
    query := r.last? "query"
    filters := r.all "filters"
    ranges := r.all "ranges"
    sort := r.all "sort"
    offset := r.int? "offset"
    limit := r.int? "limit"
    page := r.int? "page"
    retrieve := r.all "retrieve"
    exclude := r.all "exclude" }

/-- The command that has been read. -/
def command (r : Reading) : Command :=
  let index := r.text "index_id"
  let ingress := r.last? "ingress_id"
  let file := r.last? "file"
  match r.commands with
  | ["index", "create"] => .createIndex index (r.last? "primary_key")
  | ["index", "get"] => .getIndex index
  | ["index", "delete"] => .deleteIndex index
  | ["index", "exists"] => .indexExists index
  | ["documents", "add"] => .addDocuments index file (r.last? "primary_key")
  | ["documents", "delete"] => .deleteDocuments index (r.all "ids") (r.last? "filter")
  | ["ingress", "list"] => .listIngresses index
  | ["ingress", "create"] => .createIngress index file
  | ["ingress", "get"] => .getIngress index ingress
  | ["ingress", "exists"] => .ingressExists index ingress
  | ["ingress", "pause"] => .pauseIngress index ingress
  | ["ingress", "resume"] => .resumeIngress index ingress
  | ["ingress", "resync"] => .resyncIngress index ingress
  | ["ingress", "delete"] => .deleteIngress index ingress
  | _ => .search r.searchArguments

end Reading

namespace Invocation

/-- What has been read. -/
def ofReading (r : Reading) : Invocation :=
  { config := r.last? "config"
    url := r.last? "url"
    apiKey := r.last? "api_key"
    logLevel := r.last? "log_level"
    logFormat := r.last? "log_format"
    command := r.command }

/-- Reads a command line. -/
def read (args : List String) : Except Halt Invocation :=
  (grammar.read programName args).map ofReading

end Invocation

end SearchClient.CommandLine
