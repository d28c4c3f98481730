import NetworkTime.Proofs.Config.Ini.Record

/-! Configurations written as text, and read back as what they are. -/

namespace NetworkTime.Config
variable {c : Config}
open Text

/-- A configuration whose texts each fit into one line. -/
structure IsWritable (c : Config) : Prop where
  listenAddress : '\n' ∉ c.network.listenAddress.toList
  referenceId : '\n' ∉ c.server.referenceId.toList
  logFile : '\n' ∉ c.logging.logFile.toList
  allowedClients : ∀ entry ∈ c.security.allowedClients, IsEntry entry
  deniedClients : ∀ entry ∈ c.security.deniedClients, IsEntry entry

theorem IsWritable.setting (h : c.IsWritable) (s : Setting) : s.kind.IsWritable (c.get s) := by
  cases s with
  | listenAddress => exact h.listenAddress
  | referenceId => exact h.referenceId
  | logFile => exact h.logFile
  | allowedClients => exact h.allowedClients
  | deniedClients => exact h.deniedClients
  | _ => trivial

namespace Ini

def printSection (c : Config) (sec : Section) : List (List Char) :=
  printHeader sec :: sec.settings.map (printSetting c)

/-- The lines of a configuration, section by section. -/
def printLines (c : Config) : List (List Char) := Section.all.flatMap (printSection c)

def print (c : Config) : String := String.ofList ((printLines c).flatMap (· ++ ['\n']))

theorem lines_print (h : c.IsWritable) : lines (print c) = printLines c ++ [[]] := by
  have hlines : ∀ raw ∈ printLines c, '\n' ∉ raw := by
    intro raw hraw
    obtain ⟨sec, -, hraw⟩ := List.mem_flatMap.mp hraw
    have hraw : raw ∈ printPart c (sec, sec.settings) := hraw
    exact lineFeed_notMem_printPart (fun s _ => h.setting s) raw hraw
  rw [lines, print, String.toList_ofList, splitOn_flatMap hlines]

/-- Reading the lines of some sections takes over their settings. -/
theorem exists_foldl_step_sections (h : c.IsWritable) (sections : List Section) (r : Reading) :
    ∃ header, (sections.flatMap (printSection c)).foldl step (some r) =
      some ⟨c.copy (sections.flatMap Section.settings) r.config, header⟩ := by
  have hsub : ∀ part ∈ sections.map fun sec => (sec, sec.settings), part.2 ⊆ part.1.settings :=
    List.forall_mem_map.mpr fun sec _ => List.Subset.refl sec.settings
  have hread := exists_foldl_step_parts (isPart_printParts c _) hsub (fun _ _ s _ => h.setting s) r
  rwa [List.map_map, ← List.flatMap_def, List.flatMap_map] at hread

/-- A configuration whose texts fit into lines is what its own text says. -/
theorem parse_print (h : c.IsWritable) : parse (print c) = .ok c := by
  obtain ⟨header, hlines⟩ := exists_foldl_step_sections h Section.all {}
  rw [copy_all] at hlines
  refine parse_eq_ok_iff.mpr ⟨⟨c, header⟩, ?_, rfl⟩
  have hblank (r? : Option Reading) : step r? [] = r? :=
    step_remark (.inl fun ch hch => absurd hch List.not_mem_nil) r?
  rw [lines_print h, reading?, List.foldl_append, printLines, hlines, List.foldl_cons, hblank]
  rfl

/-- Texts that look like other lines, or have quotes and blanks of their own. -/
def awkward : Config where
  network := { listenAddress := " [server] \r", listenPort := 0, enableV6 := false }
  server := { stratum := 255, referenceId := "\"", poll := -128, leap := .deleteSecond }
  security := { deniedClients := ["a = \"b\"", "\"", "#;"], rateLimit := 4294967295 }
  logging := { level := .warn, destination := .both, logFile := "" }

theorem parse_print_awkward : awkward.IsWritable ∧
    printSection awkward .security =
      ["[security]".toList, "enable_authentication = false".toList,
        "restrict_queries = false".toList, "allowed_clients = \"\"".toList,
        "denied_clients = \"a = \"b\",\",#;\"".toList, "rate_limit = 4294967295".toList] ∧
    parse (print awkward) = .ok awkward := by
  have hentry : ∀ entry ∈ ["a = \"b\"", "\"", "#;"], IsEntry entry := by
    simp only [List.forall_mem_cons]
    refine ⟨?_, ?_, ?_, by simp⟩ <;> constructor <;> decide
  have hwritable : awkward.IsWritable :=
    { listenAddress := by decide
      referenceId := by decide
      logFile := by decide
      allowedClients := fun _ h => absurd h List.not_mem_nil
      deniedClients := hentry }
  exact ⟨hwritable, by decide +kernel, parse_print hwritable⟩

end Ini
end NetworkTime.Config
