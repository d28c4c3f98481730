import NetworkTime.Config.Load
import NetworkTime.Proofs.Config.Ini.Record
import NetworkTime.Proofs.Config.Json.Record

/-! The same settings in two formats. Whatever settings a text gives, and in whatever order, lines
and objects load to one configuration. -/

namespace NetworkTime.Config
variable {c : Config} {settings : Finset Setting} {text : String}

theorem parse_ini_of_layout (l : Layout settings) (h : Ini.Describes c l.parts text)
    (hwritable : ∀ s ∈ settings, s.kind.IsWritable (c.get s)) :
    parse text .ini = .ok (c.copy l.flat {}) := by
  have hv : ∀ part ∈ l.parts, ∀ s ∈ part.2, s.kind.IsWritable (c.get s) := fun part hpart s hs =>
    hwritable s ((l.mem_iff s).mpr ⟨part, hpart, hs⟩)
  rw [parse, Ini.parse_of_describes h l.subset hv]
  rfl

theorem parse_json_of_layout (l : Layout settings) (h : Json.Describes c l.parts text) :
    parse text .json = .ok (c.copy l.flat {}) := by
  rw [parse, Json.parse_of_describes h l.nodup fun part hpart =>
    ⟨l.subset part hpart, l.nodup_part part hpart⟩]
  rfl

/-- The values of some settings can be given in either format, under their sections and by their
names. All texts that do so, in whatever order, load to the configuration that has these values and
the defaults everywhere else. -/
theorem formats_agree_on_settings (c : Config) (settings : Finset Setting)
    (hwritable : ∀ s ∈ settings, s.kind.IsWritable (c.get s)) :
    ∃ d : Config, (∀ s, d.get s = if s ∈ settings then c.get s else ({} : Config).get s) ∧
      ∀ l : Layout settings,
        (∀ text, Ini.Describes c l.parts text → parse text .ini = .ok d) ∧
        (∀ text, Json.Describes c l.parts text → parse text .json = .ok d) ∧
        (∃ text, Ini.Describes c l.parts text) ∧ ∃ text, Json.Describes c l.parts text := by
  refine ⟨c.copy (Layout.declared settings).flat {}, Layout.get_copy_flat _ c {}, fun l => ?_⟩
  rw [(Layout.declared settings).copy_flat_eq l]
  refine ⟨fun text h => parse_ini_of_layout l h hwritable, fun text h => parse_json_of_layout l h,
    ⟨_, Ini.describes_print fun part hpart s hs => ?_⟩, Json.exists_describes c l.parts⟩
  exact hwritable s ((l.mem_iff s).mpr ⟨part, hpart, hs⟩)

/-- A configuration that differs from the defaults in three settings of two sections. -/
def sample : Config where
  server := { stratum := 3 }
  logging := { level := .warn, logFile := "a\\b" }

def linesLayout : Layout {.stratum, .level, .logFile} where
  parts := [(.server, [.stratum]), (.logging, [.logFile, .level])]
  nodup := by decide
  nodup_part := by decide
  subset := by decide
  mem_iff := by intro s; cases s <;> decide

def objectLayout : Layout {.stratum, .level, .logFile} where
  parts := [(.logging, [.level, .logFile]), (.server, [.stratum])]
  nodup := by decide
  nodup_part := by decide
  subset := by decide
  mem_iff := by intro s; cases s <;> decide

/-- Lines with blanks and a remark, where a backslash is a character like any other. -/
def sampleLines : String :=
  "[server]\nstratum = 3\n; where to\n [logging]\n\tlog_file=\"a\\b\"\r\nlevel = warning"

/-- An object in which the backslash is escaped, and the level has its other name. -/
def sampleObject : String :=
  " \x7b \"logging\" : \x7b \"level\" : \"warn\" , \"log_file\" : \"a\\\\b\" \x7d ," ++
    " \"server\" : \x7b \"stratum\" : 3 \x7d \x7d"

theorem describes_sampleLines : Ini.Describes sample linesLayout.parts sampleLines := by
  have hnone : Text.IsBlanks [] := fun _ hmem => absurd hmem List.not_mem_nil
  have hblank : Text.IsBlanks [' '] := by simp [Text.IsBlanks, Text.isBlank]
  have htab : Text.IsBlanks ['\t'] := by simp [Text.IsBlanks, Text.isBlank]
  have hreturn : Text.IsBlanks ['\r'] := by simp [Text.IsBlanks, Text.isBlank]
  have hserver : Ini.IsPart sample (.server, [.stratum])
      ["[server]".toList, "stratum = 3".toList] :=
    ⟨_, _, rfl, ⟨[], [], hnone, hnone, by decide +kernel⟩,
      .cons ⟨[], [' '], "3".toList, [' '], [], hnone, hblank, hblank, hnone,
        .inl (by decide +kernel), by decide +kernel⟩ .nil⟩
  have hlogging : Ini.IsPart sample (.logging, [.logFile, .level])
      [" [logging]".toList, "\tlog_file=\"a\\b\"\r".toList, "level = warning".toList] :=
    ⟨_, _, rfl, ⟨[' '], [], hblank, hnone, by decide +kernel⟩,
      .cons ⟨['\t'], [], "\"a\\b\"".toList, [], ['\r'], htab, hnone, hnone, hreturn,
        .inl (by decide +kernel), by decide +kernel⟩ <|
      .cons ⟨[], [' '], "warning".toList, [' '], [], hnone, hblank, hblank, hnone,
        .inr ⟨"warning", by decide, rfl⟩, by decide +kernel⟩ .nil⟩
  exact ⟨_, .cons hserver (.cons hlogging .nil), by decide +kernel⟩

theorem describes_sampleObject : Json.Describes sample objectLayout.parts sampleObject := by
  have hlevel : Json.IsSetting sample .level (Json.member "level" [.text (some "warn")]) :=
    ⟨_, ⟨"warn", by decide, rfl⟩, rfl⟩
  have hlogging : Json.IsPart sample (.logging, [.level, .logFile]) (Json.member "logging"
      (Json.object [Json.member "level" [.text (some "warn")],
        Json.member "log_file" [.text (some "a\\b")]])) :=
    ⟨_, .cons hlevel (.cons ⟨_, rfl, rfl⟩ .nil), rfl⟩
  have hserver : Json.IsPart sample (.server, [.stratum]) (Json.member "server"
      (Json.object [Json.member "stratum" [.number (.natural 3)]])) :=
    ⟨_, .cons ⟨_, rfl, rfl⟩ .nil, rfl⟩
  have hslash : Json.Spells ['a', '\\', '\\', 'b'] ['a', '\\', 'b'] :=
    .plain (by decide) (by decide) (by decide) <| .escape (by decide) <|
      .plain (by decide) (by decide) (by decide) .nil
  refine ⟨_, .cons hlogging (.cons hserver .nil), ?_⟩
  have hlexemes := Json.writes_spaced <|
    .cons .openBrace <| .cons (Json.lexeme_plain (s := "logging") (by decide +kernel)) <|
    .cons .colon <| .cons .openBrace <|
    .cons (Json.lexeme_plain (s := "level") (by decide +kernel)) <| .cons .colon <|
    .cons (Json.lexeme_plain (s := "warn") (by decide +kernel)) <| .cons .comma <|
    .cons (Json.lexeme_plain (s := "log_file") (by decide +kernel)) <| .cons .colon <|
    .cons (.text hslash) <| .cons .closeBrace <| .cons .comma <|
    .cons (Json.lexeme_plain (s := "server") (by decide +kernel)) <| .cons .colon <|
    .cons .openBrace <| .cons (Json.lexeme_plain (s := "stratum") (by decide +kernel)) <|
    .cons .colon <| .cons (.natural (by decide : 3 < UInt64.size)) <| .cons .closeBrace <|
    .cons .closeBrace .nil
  refine (congrArg₂ Json.Writes ?_ ?_).mpr hlexemes <;> decide +kernel

theorem formats_agree_on_settings_sample :
    (∀ s ∈ ({.stratum, .level, .logFile} : Finset Setting), s.kind.IsWritable (sample.get s)) ∧
      parse sampleLines .ini = .ok sample ∧ parse sampleObject .json = .ok sample := by
  have hwritable : ∀ s ∈ ({.stratum, .level, .logFile} : Finset Setting),
      s.kind.IsWritable (sample.get s) := by
    intro s hs
    cases s with
    | listenAddress | referenceId | allowedClients | deniedClients => exact absurd hs (by decide)
    | logFile => exact (by decide : '\n' ∉ "a\\b".toList)
    | _ => trivial
  obtain ⟨d, hd, hread⟩ := formats_agree_on_settings sample {.stratum, .level, .logFile} hwritable
  have hsample : d = sample := ext_get fun s => (hd s).trans (by cases s <;> rfl)
  subst hsample
  exact ⟨hwritable, (hread linesLayout).1 _ describes_sampleLines,
    (hread objectLayout).2.1 _ describes_sampleObject⟩

end NetworkTime.Config
