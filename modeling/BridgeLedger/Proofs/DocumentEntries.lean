import BridgeLedger.Settings
import Mathlib.Data.List.Basic

/-!
# What the entries of a document decide

The entries of a document are taken in their order, and the first that is at fault decides which error is reported
(`FirstFault`). If none is, the settings hold exactly what the entries say, and are refused only if they say nothing of
the server or give it an empty address (`Verdict`). So entries under unknown keys make no difference, and neither does
the order of entries that are accepted (`Settings.read_decides`).
-/

namespace BridgeLedger

/-- The entry is one of sections among which a table is defined twice. -/
def Toml.Entry.Redefines (entry : Toml.Entry) : Prop := ∃ repeated, entry.item = .sections repeated false

def Toml.Entry.isKnown (entry : Toml.Entry) : Bool := (Settings.Key.ofName? entry.key).isSome

def NoneRedefines (entries : List Toml.Entry) : Prop :=
  ∀ entry ∈ entries, entry.isKnown = false → ¬ entry.Redefines

/-- The path leads to a file with a document, at whose top these entries stand. -/
def FileTree.HoldsEntries (tree : FileTree) (here : Place) (path : String) (entries : List Toml.Entry) : Prop :=
  ∃ content text document, tree.read here path = .ok content ∧ Utf8.decode? content = some text ∧
    Toml.Document.parse text.toList = some document ∧ document.entries = entries

namespace Settings

/-! ## Keys -/

theorem Key.name_inj {key other : Key} : key.name = other.name ↔ key = other := by
  cases key <;> cases other <;> decide

theorem Key.ofName?_eq_some_iff {name : String} {key : Key} : Key.ofName? name = some key ↔ name = key.name := by
  constructor
  · intro h
    unfold Key.ofName? at h
    have hname := List.find?_some h
    exact (beq_iff_eq.mp hname).symm
  · rintro rfl
    cases key <;> decide

theorem Key.ofName?_eq_none_iff {name : String} : Key.ofName? name = none ↔ ∀ key : Key, name ≠ key.name := by
  simp only [Option.eq_none_iff_forall_ne_some, Ne, Key.ofName?_eq_some_iff]

def Key.Takes : Key → Toml.Item → Prop
  | .logToFile, item => ∃ value, item = .value (.boolean value)
  | _, item => ∃ text, item = .value (.string text)

/-! ## Faults -/

inductive Fault (earlier : List Toml.Entry) (entry : Toml.Entry) : DocumentError → Prop
  | repeated {key : Key} (named : entry.key = key.name) (before : ∃ old ∈ earlier, old.key = key.name) :
      Fault earlier entry (.duplicate key)
  | unfit {key : Key} (named : entry.key = key.name) (first : ∀ old ∈ earlier, old.key ≠ key.name)
      (unfit : ¬ key.Takes entry.item) : Fault earlier entry (.wrongKind key entry.item.kind)
  | redefined (unknown : ∀ key : Key, entry.key ≠ key.name) (twice : entry.Redefines) :
      Fault earlier entry .malformed

section
variable {earlier : List Toml.Entry} {entry : Toml.Entry} {cause : DocumentError}

theorem fault_of_known {key : Key} (named : entry.key = key.name) : Fault earlier entry cause ↔
    ((∃ old ∈ earlier, old.key = key.name) ∧ cause = .duplicate key) ∨
      (¬ ∃ old ∈ earlier, old.key = key.name) ∧ ¬ key.Takes entry.item ∧ cause = .wrongKind key entry.item.kind := by
  constructor
  · intro h
    cases h with
    | repeated named' before =>
      obtain rfl := Key.name_inj.mp (named'.symm.trans named)
      exact .inl ⟨before, rfl⟩
    | unfit named' first unfit =>
      obtain rfl := Key.name_inj.mp (named'.symm.trans named)
      exact .inr ⟨fun ⟨old, hold, hkey⟩ => first old hold hkey, unfit, rfl⟩
    | redefined unknown => exact absurd named (unknown key)
  · rintro (⟨before, rfl⟩ | ⟨first, unfit, rfl⟩)
    · exact .repeated named before
    · exact .unfit named (fun old hold hkey => first ⟨old, hold, hkey⟩) unfit

theorem fault_of_unknown (unknown : ∀ key : Key, entry.key ≠ key.name) :
    Fault earlier entry cause ↔ entry.Redefines ∧ cause = .malformed := by
  constructor
  · intro h
    cases h with
    | repeated named | unfit named => exact absurd named (unknown _)
    | redefined _ twice => exact ⟨twice, rfl⟩
  · rintro ⟨twice, rfl⟩
    exact .redefined unknown twice

end

/-- Of the entries that come after the earlier ones, the first that is at fault at all is at fault for this cause. -/
inductive FirstFault : (earlier entries : List Toml.Entry) → DocumentError → Prop
  | here {earlier rest : List Toml.Entry} {entry : Toml.Entry} {cause : DocumentError}
      (fault : Fault earlier entry cause) : FirstFault earlier (entry :: rest) cause
  | later {earlier rest : List Toml.Entry} {entry : Toml.Entry} {cause : DocumentError}
      (faultless : ∀ other, ¬ Fault earlier entry other) (first : FirstFault (earlier ++ [entry]) rest cause) :
      FirstFault earlier (entry :: rest) cause

def FaultFree (entries : List Toml.Entry) : Prop := ∀ cause, ¬ FirstFault [] entries cause

theorem firstFault_nil {earlier : List Toml.Entry} {cause : DocumentError} : ¬ FirstFault earlier [] cause :=
  fun h => nomatch h

theorem firstFault_cons {earlier rest : List Toml.Entry} {entry : Toml.Entry} {cause : DocumentError} :
    FirstFault earlier (entry :: rest) cause ↔
      Fault earlier entry cause ∨
        (∀ other, ¬ Fault earlier entry other) ∧ FirstFault (earlier ++ [entry]) rest cause := by
  constructor
  · intro h
    cases h with
    | here fault => exact .inl fault
    | later faultless first => exact .inr ⟨faultless, first⟩
  · rintro (fault | ⟨faultless, first⟩)
    · exact .here fault
    · exact .later faultless first

/-! ## Drafts -/

namespace Draft

def item? (draft : Draft) : Key → Option Toml.Item
  | .postgresUri => draft.postgresUri.map fun text => .value (.string text)
  | .dataDir => draft.dataDir.map fun text => .value (.string text)
  | .logLevel => draft.logLevel.map fun text => .value (.string text)
  | .logToFile => draft.logToFile.map fun value => .value (.boolean value)

/-- What is set is exactly what the entries say. -/
def Collects (draft : Draft) (entries : List Toml.Entry) : Prop :=
  ∀ key item, draft.item? key = some item ↔ ⟨key.name, item⟩ ∈ entries

theorem ext_item? {draft other : Draft} (h : ∀ key, draft.item? key = other.item? key) : draft = other := by
  have hstring : Function.Injective fun text => Toml.Item.value (.string text) := fun _ _ h => by simpa using h
  have hboolean : Function.Injective fun value => Toml.Item.value (.boolean value) := fun _ _ h => by simpa using h
  obtain ⟨uri, dir, level, toFile⟩ := draft
  obtain ⟨uri', dir', level', toFile'⟩ := other
  obtain rfl := Option.map_injective hstring (h .postgresUri)
  obtain rfl := Option.map_injective hstring (h .dataDir)
  obtain rfl := Option.map_injective hstring (h .logLevel)
  obtain rfl := Option.map_injective hboolean (h .logToFile)
  rfl

theorem Collects.unique {draft other : Draft} {entries : List Toml.Entry} (h : draft.Collects entries)
    (h' : other.Collects entries) : draft = other :=
  ext_item? fun key => Option.ext fun item => (h key item).trans (h' key item).symm

theorem has_eq (draft : Draft) (key : Key) : draft.has key = (draft.item? key).isSome := by
  cases key <;> exact (Option.isSome_map).symm

theorem Collects.has_iff {draft : Draft} {entries : List Toml.Entry} (h : draft.Collects entries) {key : Key} :
    draft.has key = true ↔ ∃ old ∈ entries, old.key = key.name := by
  rw [has_eq, Option.isSome_iff_exists]
  simp only [h key]
  constructor
  · rintro ⟨item, hmem⟩
    exact ⟨_, hmem, rfl⟩
  · rintro ⟨⟨name, item⟩, hmem, rfl⟩
    exact ⟨item, hmem⟩

theorem set_of_takes (draft : Draft) {key : Key} {item : Toml.Item} (h : key.Takes item) :
    ∃ next, draft.set key item = .ok next ∧ next.item? key = some item ∧
      ∀ other, other ≠ key → next.item? other = draft.item? other := by
  cases key <;> obtain ⟨_, rfl⟩ := h <;> refine ⟨_, rfl, rfl, fun other hother => ?_⟩ <;> cases other <;>
    first | rfl | exact absurd rfl hother

theorem set_of_not_takes (draft : Draft) {key : Key} {item : Toml.Item} (h : ¬ key.Takes item) :
    draft.set key item = .error (.wrongKind key item.kind) := by
  unfold Draft.set
  split
  · exact absurd ⟨_, rfl⟩ h
  · exact absurd ⟨_, rfl⟩ h
  · exact absurd ⟨_, rfl⟩ h
  · exact absurd ⟨_, rfl⟩ h
  · rfl

theorem Collects.nil : Collects {} [] := by
  intro key item
  cases key <;> exact iff_of_false (fun h => nomatch h) List.not_mem_nil

theorem Collects.ignore {draft : Draft} {earlier : List Toml.Entry} {entry : Toml.Entry} (h : draft.Collects earlier)
    (unknown : ∀ key : Key, entry.key ≠ key.name) : draft.Collects (earlier ++ [entry]) := by
  intro key item
  rw [h key item, List.mem_append, List.mem_singleton, or_iff_left]
  rintro rfl
  exact unknown key rfl

theorem Collects.take {draft next : Draft} {earlier : List Toml.Entry} {entry : Toml.Entry} {key : Key}
    (h : draft.Collects earlier) (named : entry.key = key.name) (first : ¬ ∃ old ∈ earlier, old.key = key.name)
    (taken : next.item? key = some entry.item) (others : ∀ other, other ≠ key → next.item? other = draft.item? other) :
    next.Collects (earlier ++ [entry]) := by
  obtain ⟨name, value⟩ := entry
  obtain rfl : name = key.name := named
  intro other item
  rw [List.mem_append, List.mem_singleton, Toml.Entry.mk.injEq, Key.name_inj]
  by_cases hother : other = key
  · subst hother
    have habsent : ⟨other.name, item⟩ ∉ earlier := fun hmem => first ⟨_, hmem, rfl⟩
    rw [taken, Option.some_inj, or_iff_right habsent, and_iff_right rfl, eq_comm]
  · rw [others other hother, h other item, or_iff_left fun hsame => hother hsame.1]

theorem Collects.add_cases {draft : Draft} {earlier : List Toml.Entry} (h : draft.Collects earlier)
    (entry : Toml.Entry) :
    (∃ cause, draft.add entry = .error cause ∧ ∀ other, Fault earlier entry other ↔ other = cause) ∨
      ∃ next, draft.add entry = .ok next ∧ next.Collects (earlier ++ [entry]) ∧
        ∀ other, ¬ Fault earlier entry other := by
  unfold Draft.add
  cases hkey : Key.ofName? entry.key with
  | none =>
    have unknown := Key.ofName?_eq_none_iff.mp hkey
    simp only [fault_of_unknown unknown]
    split
    · next repeated hitem => exact .inl ⟨_, rfl, fun other => and_iff_right ⟨repeated, hitem⟩⟩
    · next hsound =>
      exact .inr ⟨_, rfl, h.ignore unknown, fun other ⟨⟨repeated, hitem⟩, _⟩ => hsound repeated hitem⟩
  | some key =>
    have named := Key.ofName?_eq_some_iff.mp hkey
    simp only [fault_of_known named, h.has_iff]
    by_cases before : ∃ old ∈ earlier, old.key = key.name
    · simp [before]
    · by_cases takes : key.Takes entry.item
      · obtain ⟨next, hset, taken, others⟩ := draft.set_of_takes takes
        refine .inr ⟨next, ?_, h.take named before taken others, ?_⟩
        · rw [if_neg before, hset]
        · simp [before, takes]
      · refine .inl ⟨.wrongKind key entry.item.kind, ?_, ?_⟩
        · rw [if_neg before, draft.set_of_not_takes takes]
        · simp [before, takes]

theorem Collects.addAll {draft : Draft} {earlier : List Toml.Entry} (h : draft.Collects earlier)
    (entries : List Toml.Entry) :
    (∃ cause, entries.foldlM Draft.add draft = .error cause ∧
        ∀ other, FirstFault earlier entries other ↔ other = cause) ∨
      ∃ last, entries.foldlM Draft.add draft = .ok last ∧ last.Collects (earlier ++ entries) ∧
        ∀ other, ¬ FirstFault earlier entries other := by
  induction entries generalizing draft earlier with
  | nil => exact .inr ⟨draft, rfl, by rwa [List.append_nil], fun _ => firstFault_nil⟩
  | cons entry rest ih =>
    simp only [List.foldlM_cons, firstFault_cons]
    rcases h.add_cases entry with ⟨cause, hadd, hfault⟩ | ⟨next, hadd, hnext, hfault⟩
    · refine .inl ⟨cause, by rw [hadd]; rfl, fun other => ?_⟩
      have hfaulty : ¬ ∀ other, ¬ Fault earlier entry other := fun hnone => hnone cause ((hfault cause).mpr rfl)
      rw [hfault, or_iff_left fun hlater => hfaulty hlater.1]
    · have hrest := ih hnext
      rw [List.append_assoc, List.singleton_append] at hrest
      simpa [hadd, hfault, bind, Except.bind] using hrest

end Draft

/-! ## The outcome -/

def draft (settings : Settings) : Draft :=
  ⟨some settings.postgresUri, settings.dataDir, settings.logLevel, settings.logToFile⟩

/-- What a document with these entries comes to. -/
inductive Verdict (entries : List Toml.Entry) : Except ConfigError Settings → Prop
  | refused {cause : DocumentError} (first : FirstFault [] entries cause) : Verdict entries (.error (.document cause))
  | missing (free : FaultFree entries) (absent : ∀ entry ∈ entries, entry.key ≠ Key.postgresUri.name) :
      Verdict entries (.error (.document (.missing .postgresUri)))
  | emptyUri (free : FaultFree entries) (empty : ⟨Key.postgresUri.name, .value (.string "")⟩ ∈ entries) :
      Verdict entries (.error .emptyUri)
  | accepted {settings : Settings} (free : FaultFree entries) (collects : settings.draft.Collects entries)
      (nonempty : settings.postgresUri ≠ "") : Verdict entries (.ok settings)

def conclude (entries : List Toml.Entry) : Except ConfigError Settings :=
  match ofEntries entries with
  | .error cause => .error (.document cause)
  | .ok settings => if settings.postgresUri.isEmpty then .error .emptyUri else .ok settings

theorem conclude_iff {entries : List Toml.Entry} {answer : Except ConfigError Settings} :
    conclude entries = answer ↔ Verdict entries answer := by
  unfold conclude ofEntries
  rcases Draft.Collects.nil.addAll entries with ⟨cause, hfold, hfirst⟩ | ⟨last, hfold, hlast, hfree⟩
  · have hfault : FirstFault [] entries cause := (hfirst cause).mpr rfl
    rw [hfold]
    constructor
    · rintro rfl
      exact .refused hfault
    · intro h
      cases h with
      | refused first => rw [(hfirst _).mp first]; rfl
      | missing free | emptyUri free | accepted free => exact absurd hfault (free cause)
  · rw [hfold]
    have huri := hlast .postgresUri
    obtain ⟨uri, dir, level, toFile⟩ := last
    cases uri with
    | none =>
      have habsent : ∀ entry ∈ entries, entry.key ≠ Key.postgresUri.name := by
        rintro ⟨_, item⟩ hmem rfl
        cases (huri item).mpr hmem
      constructor
      · rintro rfl
        exact .missing hfree habsent
      · intro h
        cases h with
        | refused first => exact absurd first (hfree _)
        | missing => rfl
        | emptyUri _ empty => exact absurd rfl (habsent _ empty)
        | accepted _ collects => cases collects.unique hlast
    | some uri =>
      have hgiven : ⟨Key.postgresUri.name, .value (.string uri)⟩ ∈ entries := (huri _).mp rfl
      constructor
      · rintro rfl
        show Verdict entries (if uri.isEmpty then _ else _)
        by_cases hempty : uri = ""
        · subst hempty
          exact .emptyUri hfree hgiven
        · rw [if_neg (by simpa using hempty)]
          exact .accepted hfree hlast hempty
      · intro h
        cases h with
        | refused first => exact absurd first (hfree _)
        | missing _ absent => exact absurd rfl (absent _ hgiven)
        | emptyUri _ empty =>
          cases (huri _).mpr empty
          rfl
        | accepted _ collects nonempty =>
          cases collects.unique hlast
          exact if_neg (by simpa using nonempty)

/-! ## Unknown keys -/

theorem add_of_unknown (draft : Draft) {entry : Toml.Entry} (unknown : entry.isKnown = false)
    (sound : ¬ entry.Redefines) : draft.add entry = .ok draft := by
  have hnone : Key.ofName? entry.key = none := by simpa [Toml.Entry.isKnown] using unknown
  unfold Draft.add
  simp only [hnone]
  split
  · next repeated hitem => exact absurd ⟨repeated, hitem⟩ sound
  · rfl

theorem addAll_known (draft : Draft) {entries : List Toml.Entry} (hsound : NoneRedefines entries) :
    entries.foldlM Draft.add draft = (entries.filter Toml.Entry.isKnown).foldlM Draft.add draft := by
  induction entries generalizing draft with
  | nil => rfl
  | cons entry rest ih =>
    obtain ⟨hentry, hrest⟩ := List.forall_mem_cons.mp hsound
    by_cases known : entry.isKnown = true
    · rw [List.filter_cons_of_pos known, List.foldlM_cons, List.foldlM_cons]
      exact congrArg _ (funext fun next => ih next hrest)
    · have unknown : entry.isKnown = false := by simpa using known
      rw [List.filter_cons_of_neg known, List.foldlM_cons, add_of_unknown draft unknown (hentry unknown)]
      exact ih draft hrest

theorem conclude_known {entries : List Toml.Entry} (hsound : NoneRedefines entries) :
    conclude entries = conclude (entries.filter Toml.Entry.isKnown) := by
  unfold conclude ofEntries
  rw [addAll_known {} hsound]

/-! ## The order of entries -/

structure Fits (entry : Toml.Entry) : Prop where
  takes : ∀ key : Key, entry.key = key.name → key.Takes entry.item
  sound : (∀ key : Key, entry.key ≠ key.name) → ¬ entry.Redefines

def Differ (entry other : Toml.Entry) : Prop := ∀ key : Key, entry.key = key.name → other.key ≠ key.name

theorem Differ.symm {entry other : Toml.Entry} (h : Differ entry other) : Differ other entry :=
  fun key hother hentry => h key hentry hother

theorem faultless_iff {earlier : List Toml.Entry} {entry : Toml.Entry} :
    (∀ cause, ¬ Fault earlier entry cause) ↔ Fits entry ∧ ∀ old ∈ earlier, Differ old entry := by
  by_cases hknown : ∃ key : Key, entry.key = key.name
  · obtain ⟨key, named⟩ := hknown
    have honly : ∀ other : Key, entry.key = other.name → other = key :=
      fun other h => Key.name_inj.mp (h.symm.trans named)
    simp only [fault_of_known named]
    constructor
    · intro h
      have first : ¬ ∃ old ∈ earlier, old.key = key.name := fun before => h _ (.inl ⟨before, rfl⟩)
      have takes : key.Takes entry.item := Classical.not_not.mp fun unfit => h _ (.inr ⟨first, unfit, rfl⟩)
      refine ⟨⟨fun other hother => ?_, fun unknown => absurd named (unknown key)⟩, fun old hold other hkey hother => ?_⟩
      · rw [honly other hother]
        exact takes
      · exact first ⟨old, hold, by rw [hkey, honly other hother]⟩
    · rintro ⟨fits, differ⟩ cause (⟨⟨old, hold, hkey⟩, _⟩ | ⟨_, unfit, _⟩)
      · exact differ old hold key hkey named
      · exact unfit (fits.takes key named)
  · have unknown : ∀ key : Key, entry.key ≠ key.name := not_exists.mp hknown
    simp only [fault_of_unknown unknown]
    constructor
    · intro h
      exact ⟨⟨fun key named => absurd named (unknown key), fun _ twice => h _ ⟨twice, rfl⟩⟩,
        fun _ _ key _ named => unknown key named⟩
    · rintro ⟨fits, _⟩ cause ⟨twice, _⟩
      exact fits.sound unknown twice

theorem no_firstFault_iff {earlier entries : List Toml.Entry} : (∀ cause, ¬ FirstFault earlier entries cause) ↔
    (∀ entry ∈ entries, Fits entry ∧ ∀ old ∈ earlier, Differ old entry) ∧ entries.Pairwise Differ := by
  induction entries generalizing earlier with
  | nil => simp [firstFault_nil]
  | cons entry rest ih =>
    have hcons : (∀ cause, ¬ FirstFault earlier (entry :: rest) cause) ↔
        (∀ cause, ¬ Fault earlier entry cause) ∧ ∀ cause, ¬ FirstFault (earlier ++ [entry]) rest cause := by
      simp only [firstFault_cons, not_or, not_and, forall_and]
      exact and_congr_right fun faultless => ⟨fun h cause => h cause faultless, fun h cause _ => h cause⟩
    rw [hcons, faultless_iff, ih]
    simp only [List.forall_mem_cons, List.pairwise_cons, List.forall_mem_append,
      List.not_mem_nil, false_implies, implies_true, and_true]
    constructor
    · rintro ⟨hentry, hrest, hpairs⟩
      exact ⟨⟨hentry, fun other hother => ⟨(hrest other hother).1, (hrest other hother).2.1⟩⟩,
        fun other hother => (hrest other hother).2.2, hpairs⟩
    · rintro ⟨⟨hentry, hrest⟩, hdiffer, hpairs⟩
      exact ⟨hentry, fun other hother => ⟨(hrest other hother).1, (hrest other hother).2, hdiffer other hother⟩, hpairs⟩

theorem faultFree_iff {entries : List Toml.Entry} :
    FaultFree entries ↔ (∀ entry ∈ entries, Fits entry) ∧ entries.Pairwise Differ := by
  simp [FaultFree, no_firstFault_iff]

theorem Verdict.perm {entries other : List Toml.Entry} {settings : Settings} (hperm : other.Perm entries)
    (h : Verdict entries (.ok settings)) : Verdict other (.ok settings) := by
  cases h with
  | accepted free collects nonempty =>
    refine .accepted ?_ (fun key item => (collects key item).trans hperm.mem_iff.symm) nonempty
    rw [faultFree_iff] at free ⊢
    exact ⟨fun entry hmem => free.1 entry (hperm.mem_iff.mp hmem),
      (hperm.pairwise_iff Differ.symm).mpr free.2⟩

/-! ## Files -/

theorem read_eq_conclude {tree : FileTree} {here : Place} {path : String} {entries : List Toml.Entry}
    (hfile : tree.HoldsEntries here path entries) : read tree here path = conclude entries := by
  obtain ⟨content, text, document, hread, htext, hparse, rfl⟩ := hfile
  simp only [read, ofBytes, ofText, hread, htext, hparse]
  rfl

/-- A document in a file is read by its entries alone: the first that is at fault decides the error, and if there is
none the settings are what the entries say. Entries under unknown keys may be added, left out or repeated, and entries
that are accepted may come in any order. -/
theorem read_decides {tree : FileTree} {here : Place} {path : String} {entries : List Toml.Entry}
    (hfile : tree.HoldsEntries here path entries) :
    (∀ answer, read tree here path = answer ↔ Verdict entries answer) ∧
      ∀ tree' here' path' entries', FileTree.HoldsEntries tree' here' path' entries' →
        (entries'.filter Toml.Entry.isKnown = entries.filter Toml.Entry.isKnown → NoneRedefines entries →
          NoneRedefines entries' → read tree' here' path' = read tree here path) ∧
        ∀ settings, entries'.Perm entries → read tree here path = .ok settings →
          read tree' here' path' = .ok settings := by
  have hverdict : ∀ answer, read tree here path = answer ↔ Verdict entries answer := fun answer => by
    rw [read_eq_conclude hfile, conclude_iff]
  refine ⟨hverdict, fun tree' here' path' entries' hfile' => ⟨fun hknown hsound hsound' => ?_, ?_⟩⟩
  · rw [read_eq_conclude hfile, read_eq_conclude hfile', conclude_known hsound, conclude_known hsound', hknown]
  · intro settings hperm haccepted
    rw [read_eq_conclude hfile', conclude_iff]
    exact ((hverdict _).mp haccepted).perm hperm

def muddledText : String := "title = 'mine'\npostgres_uri = ''\nlog_to_file = 'yes'\npostgres_uri = 5432\n[data_dir]"

def muddledTree : FileTree := { entries := [(["conf"], .file (Utf8.encode muddledText))] }

theorem muddledFile_refused : ∃ entries, muddledTree.HoldsEntries [] "/conf" entries ∧
    entries.map (·.key) = ["title", "postgres_uri", "log_to_file", "postgres_uri", "data_dir"] ∧
    FirstFault [] entries (.wrongKind .logToFile "string \"yes\"") := by
  have hkeys : (Toml.Document.parse muddledText.toList).map (fun document => document.entries.map (·.key)) =
      some ["title", "postgres_uri", "log_to_file", "postgres_uri", "data_dir"] := by decide +kernel
  obtain ⟨document, hparse, hkeys⟩ := Option.map_eq_some_iff.mp hkeys
  have hread : muddledTree.read [] "/conf" = .ok (Utf8.encode muddledText) := by decide +kernel
  have hfile : muddledTree.HoldsEntries [] "/conf" document.entries :=
    ⟨_, _, document, hread, Utf8.decode?_encode _, hparse, rfl⟩
  have hrefused : read muddledTree [] "/conf" = .error (.document (.wrongKind .logToFile "string \"yes\"")) := by
    decide +kernel
  cases ((read_decides hfile).1 _).mp hrefused with
  | refused first => exact ⟨document.entries, hfile, hkeys, first⟩

end Settings

end BridgeLedger
