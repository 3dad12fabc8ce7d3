import BridgeLedger.Toml.Token

/-!
# Spelling and cutting

A text between double quotes is spelled character by character: quotes, backslashes and control characters are escaped,
and every other character stands for itself (`Spells`). Every text has a spelling (`spells_spell`), and it is read back
as the one token of that text, whatever the characters are (`Spells.string?`). A text is cut into its tokens one by one
(`Cuts`).
-/

namespace BridgeLedger.Toml

/-! ## Spelling -/

def isControl (c : Char) : Bool := c < ' ' || c == '\x7f'

inductive SpellsChar : Char → List Char → Prop
  | quote : SpellsChar '"' ['\\', '"']
  | backslash : SpellsChar '\\' ['\\', '\\']
  | control {c high low : Char} (control : isControl c = true)
      (hhigh : Hex.value? high = some (c.toNat / 16)) (hlow : Hex.value? low = some (c.toNat % 16)) :
      SpellsChar c ['\\', 'u', '0', '0', high, low]
  | raw {c : Char} (plain : isControl c = false) (quote : c ≠ '"') (backslash : c ≠ '\\') : SpellsChar c [c]

/-- What stands between the quotes, for the text. -/
inductive Spells : List Char → List Char → Prop
  | nil : Spells [] []
  | cons {c : Char} {spelling text rest : List Char} (first : SpellsChar c spelling) (others : Spells text rest) :
      Spells (c :: text) (spelling ++ rest)

def spellChar (c : Char) : List Char :=
  if c = '"' ∨ c = '\\' then ['\\', c]
  else if isControl c then ['\\', 'u', '0', '0', Nat.digitChar (c.toNat / 16), Nat.digitChar (c.toNat % 16)]
  else [c]

def spell (text : List Char) : List Char := text.flatMap spellChar

theorem isControl_iff {c : Char} : isControl c = true ↔ c.toNat < 32 ∨ c = '\x7f' := by
  rw [isControl, Bool.or_eq_true, decide_eq_true_eq, beq_iff_eq]
  exact Iff.rfl

theorem value?_digitChar : ∀ n < 16, Hex.value? (Nat.digitChar n) = some n := by decide

theorem spells_spellChar (c : Char) : SpellsChar c (spellChar c) := by
  unfold spellChar
  split
  · next h =>
    rcases h with rfl | rfl
    · exact .quote
    · exact .backslash
  · next h =>
    split
    · next hcontrol =>
      have hsmall : c.toNat < 128 := by
        rcases isControl_iff.mp hcontrol with hlow | rfl
        · omega
        · decide
      exact .control hcontrol (value?_digitChar _ (by omega)) (value?_digitChar _ (by omega))
    · next hplain => exact .raw (by simpa using hplain) (fun hquote => h (.inl hquote)) fun hback => h (.inr hback)

theorem spells_spell (text : List Char) : Spells text (spell text) := by
  induction text with
  | nil => exact .nil
  | cons c rest ih => exact .cons (spells_spellChar c) ih

/-! ## Reading a spelling back -/

theorem scalar?_of_digits {c high low : Char} (hhigh : Hex.value? high = some (c.toNat / 16))
    (hlow : Hex.value? low = some (c.toNat % 16)) : scalar? ['0', '0', high, low] = some c := by
  have hzero : Hex.value? '0' = some 0 := by decide
  have hdigits : ['0', '0', high, low].mapM Hex.value? = some [0, 0, c.toNat / 16, c.toNat % 16] := by
    simp [hzero, hhigh, hlow]
  have hnumber : [0, 0, c.toNat / 16, c.toNat % 16].foldl (fun n d => 16 * n + d) 0 = c.toNat := by
    simp only [List.foldl_cons, List.foldl_nil]
    omega
  have hvalid : c.toNat.isValidChar := c.valid
  rw [scalar?, hdigits]
  show (if _ then _ else _) = _
  rw [hnumber, if_pos hvalid, Char.ofNat_toNat]

theorem isStringChar_of_plain {c : Char} (plain : isControl c = false) : isStringChar c = true := by
  have hcontrol := mt isControl_iff.mpr (Bool.eq_false_iff.mp plain)
  rw [not_or, Nat.not_lt] at hcontrol
  rw [isStringChar, isCommentChar, Bool.and_eq_true, Bool.or_eq_true, decide_eq_true_eq, bne_iff_ne]
  exact ⟨.inr hcontrol.1, hcontrol.2⟩

theorem SpellsChar.basic {c : Char} {spelling : List Char} (h : SpellsChar c spelling) (rest : List Char) :
    basic false .nothing (spelling ++ rest) = keep c (Toml.basic false .nothing rest) := by
  cases h with
  | quote | backslash => simp [Toml.basic, escape?]
  | control _ hhigh hlow => simp [Toml.basic, scalar?_of_digits hhigh hlow]
  | raw plain quote backslash =>
    rw [List.singleton_append, Toml.basic.eq_def]
    simp [quote, backslash, isStringChar_of_plain plain]

theorem Spells.basic {text spelling : List Char} (h : Spells text spelling) (rest : List Char) :
    basic false .nothing (spelling ++ '"' :: rest) = some (text, rest) := by
  induction h with
  | nil =>
    rw [List.nil_append, Toml.basic.eq_def]
    simp
  | cons first _ ih =>
    rw [List.append_assoc, first.basic, ih]
    rfl

theorem Spells.head?_ne {text spelling : List Char} (h : Spells text spelling) : spelling.head? ≠ some '"' := by
  cases h with
  | nil => nofun
  | cons first _ =>
    cases first with
    | quote | backslash | control => simp
    | raw _ quote _ => simpa using quote

theorem Spells.string? {text spelling rest : List Char} (h : Spells text spelling) (hrest : rest.head? ≠ some '"') :
    string? '"' (spelling ++ '"' :: rest) = some (.string text false, rest) := by
  have hshort : ['"', '"'].isPrefixOf (spelling ++ '"' :: rest) = false := by
    cases spelling with
    | nil =>
      cases rest with
      | nil => rfl
      | cons c rest =>
        have hc : '"' ≠ c := fun hc => hrest (congrArg some hc.symm)
        simp [List.isPrefixOf, hc]
    | cons c spelling =>
      have hc : '"' ≠ c := fun hc => h.head?_ne (congrArg some hc.symm)
      simp [List.isPrefixOf, hc]
  simp only [Toml.string?, hshort, h.basic rest]
  rfl

/-! ## What does not occur -/

theorem SpellsChar.no_return {c : Char} {spelling : List Char} (h : SpellsChar c spelling) : '\r' ∉ spelling := by
  have hdigit : ∀ {digit : Char} {n : Nat}, Hex.value? digit = some n → '\r' ≠ digit := by
    rintro digit n hvalue rfl
    cases hvalue
  cases h with
  | quote | backslash => decide
  | control _ hhigh hlow => simp [hdigit hhigh, hdigit hlow]
  | raw plain =>
    rw [List.mem_singleton]
    rintro rfl
    cases plain

theorem Spells.no_return {text spelling : List Char} (h : Spells text spelling) : '\r' ∉ spelling := by
  induction h with
  | nil => exact List.not_mem_nil
  | cons first _ ih => exact fun hmem => (List.mem_append.mp hmem).elim first.no_return ih

/-! ## Cutting -/

/-- The text is cut into these tokens. -/
inductive Cuts : List Char → List Token → Prop
  | done : Cuts [] []
  | next {text rest : List Char} {token : Token} {tokens : List Token} (first : token? text = some (token, rest))
      (shorter : rest.length < text.length) (more : Cuts rest tokens) : Cuts text (token :: tokens)

def Stops (p : Char → Bool) (text : List Char) : Prop := ∀ c ∈ text.head?, p c = false

theorem Stops.nil (p : Char → Bool) : Stops p [] := nofun

theorem Stops.cons {p : Char → Bool} {c : Char} (h : p c = false) (rest : List Char) : Stops p (c :: rest) := by
  rintro _ ⟨⟩
  exact h

section
variable {p : Char → Bool} {run rest : List Char} (hrun : ∀ c ∈ run, p c = true) (hstop : Stops p rest)
include hrun hstop

theorem Stops.takeWhile : (run ++ rest).takeWhile p = run := by
  rw [List.takeWhile_append_of_pos hrun]
  cases rest with
  | nil => exact List.append_nil run
  | cons c rest => rw [List.takeWhile_cons_of_neg (by simp [hstop c rfl]), List.append_nil]

theorem Stops.dropWhile : (run ++ rest).dropWhile p = rest := by
  rw [List.dropWhile_append_of_pos hrun]
  cases rest with
  | nil => rfl
  | cons c rest => rw [List.dropWhile_cons_of_neg (by simp [hstop c rfl])]

end

namespace Cuts

theorem tokensWithin {text : List Char} {tokens : List Token} (h : Cuts text tokens) :
    ∀ {fuel : Nat}, text.length ≤ fuel → tokensWithin fuel text = some tokens := by
  induction h with
  | done =>
    intro fuel _
    cases fuel <;> rfl
  | @next text rest token tokens first shorter _ ih =>
    intro fuel hfuel
    cases text with
    | nil => cases shorter
    | cons c text =>
      cases fuel with
      | zero => cases hfuel
      | succ fuel =>
        have hrest : rest.length ≤ fuel := by
          rw [List.length_cons] at shorter hfuel
          omega
        simp only [Toml.tokensWithin, first, ih hrest, Option.map_some]

section
variable {run rest : List Char} {tokens : List Token} (h : Cuts rest tokens)
include h

theorem blank (hne : run ≠ []) (hrun : ∀ d ∈ run, isBlank d = true) (hstop : Stops isBlank rest) :
    Cuts (run ++ rest) (.blank run :: tokens) := by
  obtain ⟨c, run, rfl⟩ := List.exists_cons_of_ne_nil hne
  obtain ⟨hc, hrun⟩ := List.forall_mem_cons.mp hrun
  refine .next ?_ ?_ h
  · rw [List.cons_append, token?, if_pos hc, hstop.takeWhile hrun, hstop.dropWhile hrun]
  · rw [List.length_append, List.length_cons]
    omega

theorem word (hne : run ≠ []) (hrun : ∀ d ∈ run, isWordChar d = true) (hstop : Stops isWordChar rest) :
    Cuts (run ++ rest) (.word run :: tokens) := by
  obtain ⟨c, run, rfl⟩ := List.exists_cons_of_ne_nil hne
  obtain ⟨hc, hrun⟩ := List.forall_mem_cons.mp hrun
  have hblank : isBlank c = false := by
    rw [isBlank, Bool.or_eq_false_iff, beq_eq_false_iff_ne, beq_eq_false_iff_ne]
    constructor <;> (rintro rfl; cases hc)
  refine .next ?_ ?_ h
  · simp only [List.cons_append, token?, hblank, hc, hstop.takeWhile hrun, hstop.dropWhile hrun]
    rfl
  · rw [List.length_append, List.length_cons]
    omega

theorem comment (hrun : ∀ d ∈ run, isCommentChar d = true) (hstop : Stops isCommentChar rest) :
    Cuts ('#' :: run ++ rest) (.comment :: tokens) := by
  refine .next ?_ ?_ h
  · rw [List.cons_append]
    show some (Token.comment, (run ++ rest).dropWhile isCommentChar) = _
    rw [hstop.dropWhile hrun]
  · rw [List.length_append, List.length_cons]
    omega

theorem string {text : List Char} (hspells : Spells text run) (hrest : rest.head? ≠ some '"') :
    Cuts ('"' :: run ++ '"' :: rest) (.string text false :: tokens) := by
  refine .next ?_ ?_ h
  · exact hspells.string? hrest
  · rw [List.length_append, List.length_cons, List.length_cons]
    omega

theorem equals : Cuts ('=' :: rest) (.equals :: tokens) := .next rfl (Nat.lt_succ_self _) h

theorem newline : Cuts ('\n' :: rest) (.newline :: tokens) := .next rfl (Nat.lt_succ_self _) h

end

end Cuts

/-! ## The whole text -/

theorem foldLineEnds_of_no_return {text : List Char} (h : '\r' ∉ text) : foldLineEnds text = text := by
  induction text with
  | nil => rfl
  | cons c rest ih =>
    obtain ⟨hc, hrest⟩ := not_or.mp (mt List.mem_cons.mpr h)
    rw [foldLineEnds, ih hrest]
    rintro more ⟨⟩ _
    exact hc rfl

theorem Cuts.tokens {text : List Char} {tokens : List Token} (h : Cuts text tokens) (hreturn : '\r' ∉ text)
    (hmark : text.head? ≠ some '\ufeff') : Toml.tokens text = some tokens := by
  unfold Toml.tokens
  split
  · exact absurd rfl hmark
  · rw [foldLineEnds_of_no_return hreturn]
    exact h.tokensWithin (Nat.le_refl _)

end BridgeLedger.Toml
