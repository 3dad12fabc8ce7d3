import BridgeLedger.Proofs.DocumentEntries
import BridgeLedger.Proofs.Spellings

/-!
# Files with settings

Settings are written one to a line, in any order, among blank lines and comments (`FileLine`). Such a file is cut into
the tokens of its lines (`fileText_cuts`) and read line by line (`parse_fileText`), so that it gives back exactly the
settings that were written (`read_written`).
-/

namespace BridgeLedger.Settings

open Toml (Cuts Stops Spells Statement Token Value skipGap statementsWithin)

/-! ## Lines -/

inductive FileValue where
  | string (text : String) (spelling : List Char) (spells : Spells text.toList spelling)
  | boolean (value : Bool)

inductive FileLine where
  | blank (text : List Char) (blanks : ∀ c ∈ text, Toml.isBlank c = true)
  | comment (text : List Char) (plain : ∀ c ∈ text, ' ' ≤ c ∧ c ≤ '~')
  | field (key : Key) (value : FileValue)

namespace FileValue

def text : FileValue → List Char
  | string _ spelling _ => '"' :: spelling ++ ['"']
  | boolean value => (toString value).toList

def token : FileValue → Token
  | string text _ _ => .string text.toList false
  | boolean value => .word (toString value).toList

def value : FileValue → Value
  | string text _ _ => .string text
  | boolean value => .boolean value

end FileValue

namespace FileLine

def text : FileLine → List Char
  | blank text _ => text
  | comment text _ => '#' :: text
  | field key value => key.name.toList ++ ' ' :: '=' :: ' ' :: value.text

def tokens : FileLine → List Token
  | blank text _ => if text.isEmpty then [] else [.blank text]
  | comment _ _ => [.comment]
  | field key value => [.word key.name.toList, .blank [' '], .equals, .blank [' '], value.token]

def entry? : FileLine → Option Toml.Entry
  | blank _ _ | comment _ _ => none
  | field key value => some ⟨key.name, .value value.value⟩

def pair? : FileLine → Option (String × Value)
  | blank _ _ | comment _ _ => none
  | field key value => some (key.name, value.value)

end FileLine

def fileText : List FileLine → List Char
  | [] => []
  | [line] => line.text
  | line :: rest => line.text ++ '\n' :: fileText rest

def fileTokens : List FileLine → List Token
  | [] => []
  | [line] => line.tokens
  | line :: rest => line.tokens ++ .newline :: fileTokens rest

def entries (settings : Settings) : List Toml.Entry :=
  Key.all.filterMap fun key => (settings.draft.item? key).map fun item => ⟨key.name, item⟩

/-! ## Cutting the file -/

def AtLineEnd (rest : List Char) : Prop := ∀ c ∈ rest.head?, c = '\n'

theorem AtLineEnd.stops {rest : List Char} (h : AtLineEnd rest) {p : Char → Bool} (hp : p '\n' = false) :
    Stops p rest := by
  intro c hc
  rwa [h c hc]

theorem Key.isWordChar_name (key : Key) : ∀ c ∈ key.name.toList, Toml.isWordChar c = true := by
  rw [← List.all_eq_true]
  cases key <;> decide

theorem FileValue.stops (value : FileValue) (rest : List Char) : Stops Toml.isBlank (value.text ++ rest) := by
  rcases value with ⟨text, spelling, spells⟩ | _ | _ <;> exact .cons rfl _

section
variable {rest : List Char} {tokens : List Token} (h : Cuts rest tokens)
include h

theorem FileValue.cuts (value : FileValue) (hend : AtLineEnd rest) :
    Cuts (value.text ++ rest) (value.token :: tokens) := by
  cases value with
  | string text spelling spells =>
    have hrest : rest.head? ≠ some '"' := fun hhead => nomatch hend _ hhead
    have hcut := h.string spells hrest
    rw [List.cons_append, List.append_cons] at hcut
    exact hcut
  | boolean value => cases value <;> exact h.word (by decide) (List.all_eq_true.mp (by decide)) (hend.stops rfl)

theorem FileLine.cuts (line : FileLine) (hend : AtLineEnd rest) : Cuts (line.text ++ rest) (line.tokens ++ tokens) := by
  cases line with
  | blank text blanks =>
    cases text with
    | nil => exact h
    | cons c run => exact h.blank (List.cons_ne_nil c run) blanks (hend.stops rfl)
  | comment text plain =>
    refine h.comment (fun c hc => ?_) (hend.stops rfl)
    rw [Toml.isCommentChar, Bool.or_eq_true, decide_eq_true_eq]
    exact .inr (plain c hc).1
  | field key value =>
    have hspace : ∀ c ∈ [' '], Toml.isBlank c = true := List.forall_mem_singleton.mpr rfl
    have hvalue := (value.cuts h hend).blank (List.cons_ne_nil _ _) hspace (value.stops rest)
    have hequals := hvalue.equals.blank (List.cons_ne_nil _ _) hspace (.cons rfl _)
    have hname : key.name.toList ≠ [] := by cases key <;> decide
    have hcut := hequals.word hname key.isWordChar_name (.cons rfl _)
    rwa [FileLine.text, List.append_assoc]

end

theorem fileText_cuts (lines : List FileLine) : Cuts (fileText lines) (fileTokens lines) := by
  fun_induction fileText lines with
  | case1 => exact .done
  | case2 line =>
    have hcut := line.cuts .done nofun
    rwa [List.append_nil, List.append_nil] at hcut
  | case3 line rest hmore ih =>
    rw [fileTokens]
    · exact line.cuts ih.newline (by rintro _ ⟨⟩; rfl)
    · exact hmore

/-! ## Characters that do not occur -/

theorem FileValue.no_return (value : FileValue) : '\r' ∉ value.text := by
  cases value with
  | string text spelling spells =>
    have hspelling := spells.no_return
    simp [FileValue.text, hspelling]
  | boolean value => cases value <;> decide

theorem FileLine.no_return (line : FileLine) : '\r' ∉ line.text := by
  cases line with
  | blank text blanks =>
    intro hmem
    cases blanks _ hmem
  | comment text plain =>
    have htext : '\r' ∉ text := fun hmem => absurd (plain _ hmem).1 (by decide)
    simp [FileLine.text, htext]
  | field key value =>
    have hname : '\r' ∉ key.name.toList := fun hmem => nomatch key.isWordChar_name _ hmem
    simp [FileLine.text, hname, value.no_return]

theorem fileText_no_return (lines : List FileLine) : '\r' ∉ fileText lines := by
  fun_induction fileText lines with
  | case1 => exact List.not_mem_nil
  | case2 line => exact line.no_return
  | case3 line rest _ ih => simp [line.no_return, ih]

theorem FileLine.head?_ne (line : FileLine) : line.text.head? ≠ some '\ufeff' := by
  cases line with
  | blank text blanks => exact fun hhead => nomatch blanks _ (List.mem_of_head? hhead)
  | comment text plain => nofun
  | field key value => cases key <;> nofun

theorem fileText_head?_ne (lines : List FileLine) : (fileText lines).head? ≠ some '\ufeff' := by
  fun_induction fileText lines with
  | case1 => nofun
  | case2 line => exact line.head?_ne
  | case3 line rest _ _ =>
    intro hhead
    rw [List.head?_append, Option.or_eq_some_iff] at hhead
    rcases hhead with hhead | ⟨_, ⟨⟩⟩
    exact line.head?_ne hhead

/-! ## Reading line by line -/

theorem statementsWithin_skip {token : Token} (hskip : ∀ tokens, skipGap (token :: tokens) = skipGap tokens)
    (fuel : Nat) (tokens : List Token) : statementsWithin fuel (token :: tokens) = statementsWithin fuel tokens := by
  cases fuel <;> simp only [statementsWithin, hskip]

/-- The line is over: no token is left, or the next is the line feed. -/
def LineOver (tokens : List Token) : Prop := ∀ token ∈ tokens.head?, token = .newline

theorem LineOver.cases {tokens : List Token} (h : LineOver tokens) :
    tokens = [] ∨ ∃ more, tokens = .newline :: more := by
  cases tokens with
  | nil => exact .inl rfl
  | cons token more => exact .inr ⟨more, by rw [h token rfl]⟩

theorem LineOver.lineEnd? {tokens : List Token} (h : LineOver tokens) : ∃ more, Toml.lineEnd? tokens = some more ∧
    ∀ fuel, statementsWithin fuel more = statementsWithin fuel tokens := by
  rcases h.cases with rfl | ⟨more, rfl⟩
  · exact ⟨[], rfl, fun _ => rfl⟩
  · exact ⟨more, rfl, fun fuel => (statementsWithin_skip (fun _ => rfl) fuel more).symm⟩

theorem FileValue.value?_token (value : FileValue) (fuel : Nat) (tokens : List Token) :
    Toml.value? (fuel + 1) (value.token :: tokens) = some (value.value, tokens) := by
  cases value with
  | string text spelling spells =>
    simp only [token, Toml.value?, FileValue.value, String.ofList_toList]
  | boolean value => cases value <;> rfl

theorem keys?_word (fuel : Nat) (text : List Char) (tokens : List Token) :
    Toml.keys? (fuel + 1) (.word text :: .blank [' '] :: .equals :: tokens) =
      some ([String.ofList text], .equals :: tokens) :=
  rfl

theorem statement?_field (key : Key) (value : FileValue) {tokens : List Token} (hover : LineOver tokens) :
    ∃ more, Toml.statement? ((FileLine.field key value).tokens ++ tokens) =
        some (.pair [key.name] value.value, more) ∧
      ∀ fuel, statementsWithin fuel more = statementsWithin fuel tokens := by
  obtain ⟨more, hend, hmore⟩ := hover.lineEnd?
  refine ⟨more, ?_, hmore⟩
  show Toml.pair? (.word key.name.toList :: .blank [' '] :: .equals :: .blank [' '] :: value.token :: tokens) = _
  rw [Toml.pair?, List.length_cons, keys?_word]
  simp only [Option.bind_eq_bind, Option.bind_some, Toml.skipBlank, value.value?_token, hend, String.ofList_toList]
  rfl

theorem statementsWithin_other {line : FileLine} (hother : line.pair? = none) (fuel : Nat) (tokens : List Token) :
    statementsWithin fuel (line.tokens ++ tokens) = statementsWithin fuel tokens := by
  cases line with
  | blank text blanks =>
    cases text with
    | nil => rfl
    | cons c text => exact statementsWithin_skip (fun _ => rfl) fuel tokens
  | comment text plain => exact statementsWithin_skip (fun _ => rfl) fuel tokens
  | field key value => cases hother

theorem statementsWithin_field (key : Key) (value : FileValue) (fuel : Nat) {tokens : List Token}
    (hover : LineOver tokens) : statementsWithin (fuel + 1) ((FileLine.field key value).tokens ++ tokens) =
      (statementsWithin fuel tokens).map (.pair [key.name] value.value :: ·) := by
  obtain ⟨more, hstatement, hmore⟩ := statement?_field key value hover
  show (Toml.statement? ((FileLine.field key value).tokens ++ tokens)).bind _ = _
  rw [hstatement]
  show (statementsWithin fuel more).bind _ = _
  rw [hmore]
  cases statementsWithin fuel tokens <;> rfl

theorem fileTokens_cons (line : FileLine) (rest : List FileLine) :
    ∃ tokens, fileTokens (line :: rest) = line.tokens ++ tokens ∧ LineOver tokens ∧
      ∀ fuel, statementsWithin fuel tokens = statementsWithin fuel (fileTokens rest) := by
  cases rest with
  | nil => exact ⟨[], (List.append_nil _).symm, nofun, fun _ => rfl⟩
  | cons next rest =>
    refine ⟨_, rfl, ?_, fun fuel => statementsWithin_skip (fun _ => rfl) fuel _⟩
    rintro _ ⟨⟩
    rfl

theorem statementsWithin_fileTokens (lines : List FileLine) :
    ∀ {fuel : Nat}, (lines.filterMap FileLine.pair?).length ≤ fuel → statementsWithin fuel (fileTokens lines) =
      some ((lines.filterMap FileLine.pair?).map fun pair => .pair [pair.1] pair.2) := by
  induction lines with
  | nil =>
    intro fuel _
    cases fuel <;> rfl
  | cons line rest ih =>
    intro fuel hfuel
    obtain ⟨tokens, hsplit, hover, hrest⟩ := fileTokens_cons line rest
    rw [hsplit]
    cases hpair : line.pair? with
    | none =>
      rw [List.filterMap_cons_none hpair] at hfuel ⊢
      rw [statementsWithin_other hpair, hrest, ih hfuel]
    | some pair =>
      rw [List.filterMap_cons_some hpair] at hfuel ⊢
      obtain ⟨fuel, rfl⟩ := Nat.exists_eq_add_one_of_ne_zero (Nat.ne_of_gt (Nat.lt_of_lt_of_le (Nat.succ_pos _) hfuel))
      cases line with
      | blank | comment => cases hpair
      | field key value =>
        cases hpair
        rw [statementsWithin_field key value fuel hover, hrest, ih (Nat.le_of_succ_le_succ hfuel)]
        rfl

theorem length_pairs_le (lines : List FileLine) :
    (lines.filterMap FileLine.pair?).length ≤ (fileTokens lines).length := by
  fun_induction fileTokens lines with
  | case1 => exact Nat.le_refl _
  | case2 line =>
    cases line with
    | blank | comment => exact Nat.zero_le _
    | field => exact Nat.succ_le_succ (Nat.zero_le _)
  | case3 line rest _ ih =>
    rw [List.length_append, List.length_cons]
    cases line with
    | blank | comment => exact Nat.le_trans ih (by omega)
    | field => exact Nat.le_trans (Nat.succ_le_succ ih) (by omega)

/-! ## The document -/

theorem foldlM_addStatement (pairs : List (String × Value)) (latest : Toml.Section) (earlier : List Toml.Section) :
    (pairs.map fun pair => Statement.pair [pair.1] pair.2).foldlM
        (fun (latest, earlier) => Toml.addStatement latest earlier) (latest, earlier) =
      some ({ latest with pairs := latest.pairs ++ pairs }, earlier) := by
  induction pairs generalizing latest with
  | nil => simp
  | cons pair rest ih =>
    rw [List.map_cons, List.foldlM_cons]
    show (Toml.addStatement latest earlier (.pair [pair.1] pair.2)).bind _ = _
    simp only [Toml.addStatement, Toml.insertPair, Option.map_some, Option.bind_some, ih, List.append_assoc,
      List.singleton_append]

theorem parse_fileText (lines : List FileLine) :
    Toml.Document.parse (fileText lines) = some { pairs := lines.filterMap FileLine.pair?, sections := [] } := by
  have htokens := (fileText_cuts lines).tokens (fileText_no_return lines) (fileText_head?_ne lines)
  have hstatements := statementsWithin_fileTokens lines (length_pairs_le lines)
  rw [Toml.Document.parse, htokens]
  simp only [Option.bind_eq_bind, Option.bind_some, hstatements, foldlM_addStatement]
  rfl

theorem entries_fileText (lines : List FileLine) :
    Toml.Document.entries { pairs := lines.filterMap FileLine.pair?, sections := [] } =
      lines.filterMap FileLine.entry? := by
  have hentry : ∀ line : FileLine, line.entry? = line.pair?.map fun pair => ⟨pair.1, .value pair.2⟩ := by
    rintro (_ | _ | _) <;> rfl
  rw [funext hentry, ← List.map_filterMap]
  exact List.append_nil _

theorem holdsEntries_fileText {lines : List FileLine} {tree : FileTree} {here : Place} {path : String}
    (hfile : tree.read here path = .ok (Utf8.encode (String.ofList (fileText lines)))) :
    tree.HoldsEntries here path (lines.filterMap FileLine.entry?) := by
  refine ⟨_, _, _, hfile, Utf8.decode?_encode _, ?_, entries_fileText lines⟩
  rw [String.toList_ofList]
  exact parse_fileText lines

/-! ## The settings -/

theorem Key.mem_all (key : Key) : key ∈ Key.all := by cases key <;> decide

theorem mem_entries_iff {settings : Settings} {entry : Toml.Entry} :
    entry ∈ settings.entries ↔ ∃ key item, settings.draft.item? key = some item ∧ ⟨key.name, item⟩ = entry := by
  simp only [entries, List.mem_filterMap, Option.map_eq_some_iff, Key.mem_all, true_and]

theorem entries_collects (settings : Settings) : settings.draft.Collects settings.entries := by
  intro key item
  rw [mem_entries_iff]
  constructor
  · exact fun hitem => ⟨key, item, hitem, rfl⟩
  · rintro ⟨other, _, hitem, hentry⟩
    obtain ⟨hname, rfl⟩ := Toml.Entry.mk.injEq .. ▸ hentry
    rwa [← Key.name_inj.mp hname]

theorem Draft.takes_of_item? {draft : Draft} {key : Key} {item : Toml.Item} (h : draft.item? key = some item) :
    key.Takes item := by
  cases key <;> obtain ⟨value, _, rfl⟩ := Option.map_eq_some_iff.mp h <;> exact ⟨value, rfl⟩

theorem entries_faultFree (settings : Settings) : FaultFree settings.entries := by
  rw [faultFree_iff]
  constructor
  · intro entry hentry
    obtain ⟨key, item, hitem, rfl⟩ := mem_entries_iff.mp hentry
    refine ⟨fun other hname => ?_, fun hunknown => absurd rfl (hunknown key)⟩
    rw [← Key.name_inj.mp hname]
    exact Draft.takes_of_item? hitem
  · have hkeys : Key.all.Pairwise (· ≠ ·) := by decide
    refine List.pairwise_filterMap.mpr (hkeys.imp fun hne entry hentry other hother => ?_)
    obtain ⟨item, _, rfl⟩ := Option.map_eq_some_iff.mp hentry
    obtain ⟨item', _, rfl⟩ := Option.map_eq_some_iff.mp hother
    exact fun key hfirst hsecond => hne (Key.name_inj.mp (hfirst.trans hsecond.symm))

/-- Settings that were written to a file are read back from it: every text character for character, and nothing that
was not set. -/
theorem read_written {settings : Settings} {lines : List FileLine} {tree : FileTree} {here : Place} {path : String}
    (hgiven : settings.postgresUri ≠ "") (hlines : (lines.filterMap FileLine.entry?).Perm settings.entries)
    (hfile : tree.read here path = .ok (Utf8.encode (String.ofList (fileText lines)))) :
    read tree here path = .ok settings := by
  rw [read_eq_conclude (holdsEntries_fileText hfile), conclude_iff]
  exact Verdict.perm hlines (.accepted settings.entries_faultFree settings.entries_collects hgiven)

def gnarledSettings : Settings where
  postgresUri := "\"a\\b\" # [c]\n= \x7fé"
  dataDir := some ""
  logToFile := some true

def gnarledLines : List FileLine :=
  [.comment [' ', '[', 'a', ']', ' ', '=', ' ', '"'] (by simp), .field .logToFile (.boolean true), .blank [] nofun,
    .field .postgresUri (.string gnarledSettings.postgresUri _ (Toml.spells_spell _)),
    .blank ['\t', ' '] (List.all_eq_true.mp rfl), .field .dataDir (.string "" _ .nil), .blank [] nofun]

def gnarledText : String :=
  "# [a] = \"\nlog_to_file = true\n\npostgres_uri = \"\\\"a\\\\b\\\" # [c]\\u000a= \\u007fé\"\n\t \ndata_dir = \"\"\n"

theorem gnarledFile_read :
    gnarledSettings.postgresUri ≠ "" ∧ (gnarledLines.filterMap FileLine.entry?).Perm gnarledSettings.entries ∧
      String.ofList (fileText gnarledLines) = gnarledText ∧
      read { entries := [(["conf"], .file (Utf8.encode gnarledText))] } [] "/conf" = .ok gnarledSettings := by
  have hgiven : gnarledSettings.postgresUri ≠ "" := by decide
  have hlines : (gnarledLines.filterMap FileLine.entry?).Perm gnarledSettings.entries :=
    (List.perm_append_singleton _ _).symm
  have htext : String.ofList (fileText gnarledLines) = gnarledText := by decide +kernel
  refine ⟨hgiven, hlines, htext, read_written hgiven hlines ?_⟩
  rw [htext]
  decide +kernel

end BridgeLedger.Settings
