/-! Errors as they are shown when a program ends: what failed, and the causes behind it. -/

namespace NetworkTime

/-- What failed, and why, the nearest cause first. -/
structure Report where
  message : String
  causes : List String := []
deriving DecidableEq, Repr

namespace Report

/-- A text with every line after the first moved to the right. -/
def indented (margin text : String) : String :=
  text.toList.foldl (fun done c => if c = '\n' then done ++ "\n" ++ margin else done.push c) ""

/-- The causes in lines, with numbers if there are several. -/
def causeLines : List String → List String
  | [cause] => ["    " ++ indented "    " cause]
  | causes => causes.zipIdx.map fun (cause, n) => s!"    {n}: " ++ indented "       " cause

def lines (r : Report) : List String :=
  if r.causes.isEmpty then [s!"Error: {r.message}"]
  else [s!"Error: {r.message}", "", "Caused by:"] ++ causeLines r.causes

def text (r : Report) : String := String.join (r.lines.map (· ++ "\n"))

end Report
end NetworkTime
