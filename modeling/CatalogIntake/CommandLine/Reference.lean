import CatalogIntake.CommandLine.Invocation
import CatalogIntake.Folder

namespace CatalogIntake.CommandLine

namespace Reference

def code (s : String) : String := s!"`{s}`"

def item (names about : String) : String :=
  if about.isEmpty then s!"* {names}" else s!"* {names} — {about}"

def switchNames (s : Switch) : String :=
  let long := match s.action with
    | .take value => s!"--{s.long} <{value.name}>"
    | _ => s!"--{s.long}"
  match s.short with
  | some c => code s!"-{c}" ++ ", " ++ code long
  | none => code long

def defaultOf (s : Switch) : String :=
  match s.action with
  | .take ⟨_, _, some text⟩ => s!"\n\n  Default value: {code text}"
  | _ => ""

def switchItem (s : Switch) : String := item (switchNames s) s.about ++ defaultOf s

def positionalItem (p : Positional) : String := item (code s!"<{p.value.name}>") p.about

def heading (title : String) : String := s!"###### **{title}:**"

def list (title : String) (items : List String) : List String :=
  if items.isEmpty then [] else [heading title, "\n".intercalate items]

def part (name about usage : String) (paragraphs : List String) : String :=
  "\n\n".intercalate ([s!"## {code name}", about, s!"**Usage:** {code usage}"] ++ paragraphs)
    ++ "\n\n\n\n"

def usage (name : String) (switches : List Switch) (rest : List String) : String :=
  " ".intercalate (name :: (if switches.isEmpty then [] else ["[OPTIONS]"]) ++ rest)

def programSection (g : Grammar) : String :=
  part g.name g.about (usage g.name g.switches ["<COMMAND>"])
    (list "Subcommands" (g.commands.map fun c => item (code c.name) c.about)
      ++ list "Options" (g.switches.map switchItem))

def commandSection (g : Grammar) (c : Command) : String :=
  let name := s!"{g.name} {c.name}"
  part name c.about
    (usage name c.switches (c.positionals.map fun p => s!"<{p.value.name}>"))
    (list "Arguments" (c.positionals.map positionalItem)
      ++ list "Options" (c.switches.map switchItem))

def anchor (name : String) : String :=
  String.ofList (name.toList.map fun c => if c = ' ' then '-' else c)

def overviewItem (name : String) : String := s!"* [{code name}↴](#{anchor name})"

def footer : String :=
  "<hr/>\n\n<small><i>\n" ++
  "    This document was generated automatically by\n" ++
  "    <a href=\"https://crates.io/crates/clap-markdown\"><code>clap-markdown</code></a>.\n" ++
  "</i></small>\n"

def help (g : Grammar) : String :=
  let names := g.name :: g.commands.map fun c => s!"{g.name} {c.name}"
  s!"# Command-Line Help for {code g.name}\n\n" ++
  s!"This document contains the help content for the {code g.name} command-line program.\n\n" ++
  "**Command Overview:**\n\n" ++ "\n".intercalate (names.map overviewItem) ++ "\n\n" ++
  programSection g ++ String.join (g.commands.map (commandSection g)) ++ footer

def introduction (day : String) : String :=
  s!"# {importer.name} CLI Reference\n\nGenerated from the CLI source code on {day}.\n\n" ++
  "## Typical use\n\n```bash\n" ++
  s!"# Apply migrations once\n{importer.name} migrate\n\n" ++
  s!"# Start workers (one or more processes)\n{importer.name} worker --workers 5\n\n" ++
  "# Submit a file; chunks are picked up by the workers\n" ++
  s!"{importer.name} import products.csv --wait\n\n" ++
  "# Or run everything in one process without Postgres\n" ++
  s!"{importer.name} run products.csv --in-memory\n```\n\n## Commands\n\n"

def environment : String :=
  "\n\n## Environment Variables\n\n" ++
  "- `DATABASE_URL` - PostgreSQL connection string\n" ++
  "- `IMPORT_DATA_DIR` - Directory relative file names resolve against\n" ++
  "- `IMPORT_CHUNK_SIZE` - Rows per chunk (default `1000`)\n" ++
  "- `IMPORT_WORKER_COUNT` - Concurrent chunk consumers (default `5`)\n" ++
  "- `IMPORT_PARSE_FAILURES` - `count` or `log-only` (default `count`)\n" ++
  "- `IMPORT_ROUTING_KEY` - Queue routing key (default `product.import`)\n" ++
  "- `LOG_LEVEL`, `LOG_OUTPUT`, `LOG_FORMAT`, `LOG_DIR` - Logging\n" ++
  "- `RUST_LOG` - Additional tracing filter directives\n"

def page (day : String) : String := introduction day ++ help importer ++ environment

end Reference

def documenter : Grammar where
  name := "documenter"
  about := "Writes documentation"
  commands := [{
    name := "generate-cli-docs"
    about := "Generate the CLI reference in Markdown"
    switches := [⟨"output-dir", some 'o', "Output directory for generated documentation",
      .take ⟨"OUTPUT_DIR", anyText, some "docs"⟩⟩] }]

structure Finish where
  exitCode : Nat
  output : String
  folder : Folder

def referenceFile : String := "cli.md"

def writeReference (folder : Folder) (day directory : String) : Except FileError Folder := do
  let (folder, place) ← folder.createDirectory directory
  folder.write place referenceFile (Reference.page day).toUTF8.toList

def document (args : List String) (folder : Folder) (day : String) : Finish :=
  match documenter.read false args with
  | .error e => ⟨e.exitCode, "", folder⟩
  | .ok call =>
    let directory := call.own.text "output-dir" "docs"
    let started := "Generating CLI documentation...\n"
    match writeReference folder day directory with
    | .error _ => ⟨1, started, folder⟩
    | .ok folder =>
      let file := Folder.join directory referenceFile
      ⟨0, started ++ s!"Generated CLI documentation at {file}\n", folder⟩

end CatalogIntake.CommandLine
