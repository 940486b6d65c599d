import ReleaseFinder.CommandLine.Arguments
import ReleaseFinder.Tally

/-!
# Exposition of counts

Counts as lines of text that a monitoring system can collect, in order of the names of the counts.
-/

namespace ReleaseFinder.CommandLine

/-- A count with labels. -/
def labelled (name : String) (labels : List (String × String)) (count : Nat) : String :=
  let written := labels.map fun label => label.1 ++ "=\"" ++ label.2 ++ "\""
  let braces := if written.isEmpty then "" else "\x7b" ++ ",".intercalate written ++ "\x7d"
  name ++ braces ++ " " ++ toString count

/-- The counts of every label. -/
def labelledAll (name label : String) (counts : LabelCounts) : List String :=
  counts.entries.map fun entry => labelled name [(label, entry.1)] entry.2

/-- The numbers of releases ranked together, up to each bound. -/
def candidateLines (tally : Tally) : List String :=
  let name := "mydia_ranking_candidates"
  let bucket (bound : String) (count : Nat) : String :=
    labelled (name ++ "_bucket") [("le", bound)] count
  Tally.candidateBounds.map (fun bound => bucket (toString bound) (tally.candidatesUpTo bound)) ++
    [bucket "+Inf" tally.candidates.length, labelled (name ++ "_sum") [] tally.candidateTotal,
      labelled (name ++ "_count") [] tally.candidates.length]

/-- What a command has counted, and whether it has succeeded. -/
def exposition (command : Command) (succeeded : Bool) (tally : Tally) : List String :=
  let status := if succeeded then "success" else "error"
  [labelled "mydia_cli_commands_total" [("command", command.name), ("status", status)] 1] ++
    labelledAll "mydia_definition_files_loaded_total" "outcome" tally.files ++
    labelledAll "mydia_definitions_parsed_total" "result" tally.parsed ++
    candidateLines tally ++
    labelledAll "mydia_results_rejected_total" "reason" tally.rejected ++
    [labelled "mydia_results_scored_total" [] tally.scored] ++
    labelledAll "mydia_titles_classified_total" "outcome" tally.titles

end ReleaseFinder.CommandLine
