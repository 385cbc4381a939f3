import StaleBuild.Build
import StaleBuild.Text.Json

/-!
What the program tells its user: the summary of a build, the list of stale sources, and the account
of a failure. The first two come as text or as JSON. The time that a build took is not measured, so
every duration reads zero.
-/

namespace StaleBuild.Command

/-- Lines of text, each with its line break. -/
def unlines (lines : List String) : String := String.join (lines.map (· ++ "\n"))

/-- A path as the user knows it: seen from the project's root if it lies below. -/
def displayed (root p : Path) : String := ((Path.stripBase? root p).getD p).text

/-- A duration in a text. -/
def elapsed : String := "0.00s"

/-- The line between the parts of a summary. -/
def rule : String := String.ofList (List.replicate 60 '=')

/-! ## Builds -/

/-- A headline between two rules, behind an empty line. -/
def banner (headline : String) : List String := ["", rule, headline, rule]

/-- The lines on injected classes; none if there are none. -/
def injectedLines (classes : List ClassNode) : List String :=
  if classes = [] then []
  else ("  Injected: " ++ toString classes.length ++ " artefact classes") ::
    classes.map fun c => "    " ++ c.name ++ " (" ++ ", ".intercalate c.properties ++ ")"

/-- The summary of a build as lines of text. -/
def summaryLines (root : Path) (s : BuildSummary) : List String :=
  match s.state with
  | .idle => ["Up to date (" ++ toString s.scanned ++ " source files checked in " ++ elapsed ++ ")"]
  | .succeeded =>
    banner ("Build succeeded in " ++ elapsed) ++
      ["  Scanned: " ++ toString s.scanned ++ " files",
        "  Compiled: " ++ toString s.stale.length ++ " sources",
        "  Class files stamped: " ++ toString s.reconciled] ++
      s.stale.map (fun m => "    " ++ displayed root m.source) ++
      injectedLines s.injected ++ [rule]
  | .failed d =>
    banner ("Build failed after " ++ elapsed ++ " (" ++ toString s.stale.length ++
        " stale sources)") ++
      d.messages.map (fun m => "  " ++ m) ++ [rule]

/-- A duration in a document. -/
def durationJson : Json := .object [("secs", .number 0), ("nanos", .number 0)]

/-- The state of a build as a document. -/
def stateJson : ExecutionState → Json
  | .idle => .object [("state", .text "idle")]
  | .succeeded => .object [("state", .text "succeeded")]
  | .failed d => .object [("state", .text "failed-recoverable"), ("kind", .text d.kind.name),
      ("messages", .list (d.messages.map Json.text))]

/-- A class as a document. -/
def classJson (c : ClassNode) : Json :=
  .object [("name", .text c.name), ("source", .text c.source.text),
    ("properties", .list (c.properties.map Json.text))]

/-- The summary of a build as a document. -/
def summaryJson (s : BuildSummary) : Json :=
  .object [("scanned_files", .number s.scanned),
    ("stale", .list (s.stale.map fun m =>
      .object [("source", .text m.source.text), ("output", .text m.output.text)])),
    ("state", stateJson s.state),
    ("reconciled", .number s.reconciled),
    ("injected", .list (s.injected.map classJson)),
    ("scan_time", durationJson), ("compile_time", durationJson), ("total_time", durationJson)]

/-! ## Stale sources -/

/-- The stale sources as lines of text. -/
def staleLines (root : Path) (r : ScanReport) : List String :=
  let mappings := r.run.mappings
  if mappings = [] then ["All " ++ toString r.scanned ++ " source files are up to date"]
  else mappings.map (fun m => displayed root m.source ++ " -> " ++ displayed root m.output) ++
    [toString mappings.length ++ " of " ++ toString r.scanned ++ " source files stale"]

/-- The stale sources as a document, the fields of every object sorted by name. -/
def staleJson (r : ScanReport) : Json :=
  .object [("scanned_files", .number r.scanned),
    ("stale", .list (r.run.mappings.map fun m =>
      .object [("output", .text m.output.text), ("source", .text m.source.text)]))]

/-! ## Failures -/

/-- A text whose further lines are indented by `width`. -/
def hanging (width : Nat) (s : String) : String :=
  String.ofList (s.toList.flatMap fun c =>
    if c = '\n' then '\n' :: List.replicate width ' ' else [c])

/-- The causes of a failure, each below the one that it brought about. A single cause is indented,
several are numbered. -/
def causeTexts (causes : List String) : List String :=
  match causes with
  | [cause] => ["    " ++ hanging 4 cause]
  | _ => causes.zipIdx.map fun (cause, n) =>
    String.ofList (List.replicate (5 - (toString n).length) ' ') ++ toString n ++ ": " ++
      hanging 7 cause

/-- The account of a failure and of its causes. -/
def failureLines (what : String) (causes : List String) : List String :=
  ("Error: " ++ what) :: if causes = [] then [] else "" :: "Caused by:" :: causeTexts causes

end StaleBuild.Command
