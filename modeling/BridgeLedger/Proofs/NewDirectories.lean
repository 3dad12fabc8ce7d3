import BridgeLedger.Proofs.Paths
import BridgeLedger.Proofs.Walks

/-!
# Which directories are made

Making the data directory may make directories above it too, or fail halfway. Whatever it has made by then lies where a
beginning of the path leads (`FileTree.makeAll_along`, `exists_start_of_names`). So a setup leaves all that was there as
it was, and adds only directories on the way, for their owner alone (`Settings.setUp_confined`).
-/

namespace BridgeLedger

namespace FileTree

/-! ## The first names of a path -/

theorem exists_of_filter {α : Type} {p : α → Bool} {xs kept : List α} (hkept : kept <+: xs.filter p) :
    ∃ ys, ys <+: xs ∧ ys.filter p = kept ∧ ∀ last ∈ ys.getLast?, p last = true := by
  induction xs generalizing kept with
  | nil => exact ⟨[], List.nil_prefix, (List.prefix_nil.mp hkept).symm, nofun⟩
  | cons x xs ih =>
    cases kept with
    | nil => exact ⟨[], List.nil_prefix, rfl, nofun⟩
    | cons k kept =>
      by_cases hx : p x = true
      · rw [List.filter_cons_of_pos hx] at hkept
        obtain ⟨rfl, htail⟩ := List.cons_prefix_cons.mp hkept
        obtain ⟨ys, hys, hfilter, hlast⟩ := ih htail
        refine ⟨k :: ys, List.cons_prefix_cons.mpr ⟨rfl, hys⟩, by rw [List.filter_cons_of_pos hx, hfilter], ?_⟩
        cases ys with
        | nil => simpa using hx
        | cons y ys => simpa [List.getLast?_cons_cons] using hlast
      · rw [List.filter_cons_of_neg hx] at hkept
        obtain ⟨ys, hys, hfilter, hlast⟩ := ih hkept
        refine ⟨x :: ys, List.cons_prefix_cons.mpr ⟨rfl, hys⟩, by rw [List.filter_cons_of_neg hx, hfilter], ?_⟩
        cases ys with
        | nil => cases hfilter
        | cons y ys => simpa [List.getLast?_cons_cons] using hlast

theorem exists_parts_of_names {path : String} {way : List String} (hway : way <+: names path) (hne : way ≠ []) :
    ∃ first, first <+: FileTree.parts path ∧ first ≠ [] ∧ first ≠ [""] ∧
      ∀ {tree : FileTree} {links : Nat} {place dest : Place},
        tree.Leads .find links place way dest → tree.Leads .find links place first dest := by
  unfold names at hway
  split at hway
  · next rest hparts =>
    obtain ⟨dot, way, rfl⟩ := List.exists_cons_of_ne_nil hne
    obtain ⟨rfl, htail⟩ := List.cons_prefix_cons.mp hway
    obtain ⟨first, hfirst, rfl, hlast⟩ := exists_of_filter (p := isStep) htail
    refine ⟨"." :: first, ?_, List.cons_ne_nil _ _, by simp, fun h => ?_⟩
    · rw [hparts]
      exact List.cons_prefix_cons.mpr ⟨rfl, hfirst⟩
    · exact .stay h.inside (.inr rfl) ((h.onward_of_idle (.inr rfl)).of_steps hlast)
  · obtain ⟨first, hfirst, rfl, hlast⟩ := exists_of_filter (p := isStep) hway
    refine ⟨first, hfirst, ?_, ?_, fun h => h.of_steps hlast⟩
    · rintro rfl
      exact hne rfl
    · rintro rfl
      exact hne rfl

theorem exists_start_of_names {path : String} {way : List String} (hway : way <+: names path) (hne : way ≠ []) :
    ∃ start : String, start.toList <+: path.toList ∧ FileTree.parts start <+: FileTree.parts path ∧ start ≠ "" ∧
      ∀ {tree : FileTree} {links : Nat} {place dest : Place},
        tree.Leads .find links place way dest → tree.Leads .find links place (FileTree.parts start) dest := by
  obtain ⟨first, hfirst, hsome, hnamed, hleads⟩ := exists_parts_of_names hway hne
  obtain ⟨start, hstart, rfl⟩ := exists_start hfirst hsome
  refine ⟨start, hstart, hfirst, ?_, hleads⟩
  rintro rfl
  exact hnamed rfl

/-! ## Making one directory -/

theorem trim_append (parts : List String) : ∃ tail, parts = trim parts ++ tail ∧ ∀ part ∈ tail, part = "" := by
  refine ⟨(parts.reverse.takeWhile (· == "")).reverse, ?_, ?_⟩
  · rw [trim, ← List.reverse_append, List.takeWhile_append_dropWhile, List.reverse_reverse]
  · intro part hmem
    simpa using List.all_eq_true.mp List.all_takeWhile part (List.mem_reverse.mp hmem)

theorem ne_empty_of_trim {parts : List String} {name : String} (h : (trim parts).getLast? = some name) : name ≠ "" := by
  rw [trim, List.getLast?_reverse] at h
  rintro rfl
  have hkept := List.head?_dropWhile_not (· == "") parts.reverse
  rw [h] at hkept
  simp at hkept

theorem node?_add (tree : FileTree) (made : Place) (node : Node) (place : Place) :
    (tree.add made node).node? place = (tree.node? place).or (if place = made then some node else none) := by
  cases place with
  | nil => simp [node?]
  | cons name names =>
    show (tree.entries ++ [(made, node)]).lookup (name :: names) = (tree.entries.lookup (name :: names)).or _
    rw [List.lookup_append, List.lookup_cons, List.lookup_nil]
    by_cases h : name :: names = made
    · rw [if_pos h, beq_iff_eq.mpr h]
    · rw [if_neg h, beq_eq_false_iff_ne.mpr h]

/-- But for the slashes after it, the last of the parts is a new name in a directory, to which those before it lead. -/
structure NewName (tree : FileTree) (place : Place) (parts : List String) (above : Place) (name : String) : Prop where
  named : name ≠ "" ∧ name ≠ "." ∧ name ≠ ".."
  short : name.utf8ByteSize ≤ 255
  leads : ∃ before tail, parts = before ++ [name] ++ tail ∧ (∀ part ∈ tail, part = "") ∧
    tree.Leads .find maxLinks place (before ++ [""]) above
  free : tree.node? (above ++ [name]) = none

theorem make_new {tree after : FileTree} {place : Place} {parts : List String} {node : Node}
    (h : tree.make place parts node = .ok after) :
    ∃ above name, tree.NewName place parts above name ∧ after = tree.add (above ++ [name]) node := by
  obtain ⟨above, name, hname, hwalk, hdots, hshort, hfree, rfl⟩ := make_ok h
  obtain ⟨before, htrim⟩ := List.getLast?_eq_some_iff.mp hname
  obtain ⟨tail, hparts, htail⟩ := trim_append parts
  rw [htrim] at hparts
  rw [htrim, List.dropLast_concat] at hwalk
  exact ⟨above, name, ⟨⟨ne_empty_of_trim hname, hdots⟩, hshort,
    ⟨before, tail, hparts, htail, (walk_ok_iff (by decide)).mp hwalk⟩, hfree⟩, rfl⟩

theorem make_leads {tree after : FileTree} {place : Place} {parts : List String} {mode : Nat}
    (h : tree.make place parts (.directory mode) = .ok after) :
    ∃ made, after = tree.add made (.directory mode) ∧ after.isDirectoryAt made = true ∧
      after.Leads .find maxLinks place parts made := by
  have hadds := make_adds h
  obtain ⟨above, name, hnew, rfl⟩ := make_new h
  obtain ⟨before, tail, rfl, htail, hleads⟩ := hnew.leads
  obtain ⟨middle, used, left, hlinks, habove, hlast⟩ := hleads.split rfl
  have hinside := hlast.inside
  cases hlast.onward_of_idle (.inl rfl)
  have hmade : (tree.add (above ++ [name]) (.directory mode)).node? (above ++ [name]) = some (.directory mode) := by
    rw [node?_add, hnew.free, if_pos rfl, Option.none_or]
  have hfound : (tree.add (above ++ [name]) (.directory mode)).Finds .find above name (.directory mode) :=
    ⟨hadds.isDirectoryAt hinside, hnew.named, hnew.short, nofun, hmade⟩
  have hdirectory := isDirectoryAt_iff.mpr ⟨mode, hmade⟩
  refine ⟨above ++ [name], rfl, hdirectory, ?_⟩
  -- the walk to the directory above, then the name, then the slashes after it
  have hname : Leads _ _ 0 above [name] (above ++ [name]) := .enter hfound nofun .done
  have hslashes : Leads _ .find 0 (above ++ [name]) tail (above ++ [name]) :=
    leads_of_empty hdirectory htail
  exact (((habove.adds hadds).append hname).append hslashes).more (by omega)

/-! ## Making directories one above the other -/

/-- What is new in the later tree is where one of these ways leads. -/
def NewAlong (ways : List String → Prop) (place : Place) (before after : FileTree) : Prop :=
  ∀ new, before.node? new = none → after.node? new ≠ none →
    ∃ parts, ways parts ∧ after.Leads .find maxLinks place parts new

section
variable {ways : List String → Prop} {place : Place} {mode : Nat}

theorem NewAlong.refl (tree : FileTree) : NewAlong ways place tree tree :=
  fun _ hnone hnew => absurd hnone hnew

theorem NewAlong.trans {before middle after : FileTree} (hfirst : NewAlong ways place before middle)
    (hsecond : NewAlong ways place middle after) (hadds : Adds mode middle after) :
    NewAlong ways place before after := by
  intro new hnone hnew
  by_cases hmiddle : middle.node? new = none
  · exact hsecond new hmiddle hnew
  · obtain ⟨parts, hways, hleads⟩ := hfirst new hnone hmiddle
    exact ⟨parts, hways, hleads.adds hadds⟩

theorem NewAlong.mono {before after : FileTree} {more : List String → Prop} (h : NewAlong ways place before after)
    (hmore : ∀ parts, ways parts → more parts) : NewAlong more place before after := by
  intro new hnone hnew
  obtain ⟨parts, hways, hleads⟩ := h new hnone hnew
  exact ⟨parts, hmore parts hways, hleads⟩

end

/-- The parts themselves, or the names on the way to one of the directories above. -/
def OnTheWay (parts above way : List String) : Prop :=
  way = parts ∨ ∃ names, names ≠ [] ∧ names <:+ above ∧ way = names.reverse

theorem OnTheWay.cons {name : String} {higher way : List String} (parts : List String)
    (h : OnTheWay (name :: higher).reverse higher way) : OnTheWay parts (name :: higher) way := by
  rcases h with rfl | ⟨names, hne, hsuffix, rfl⟩
  · exact .inr ⟨_, List.cons_ne_nil name higher, List.suffix_rfl, rfl⟩
  · exact .inr ⟨names, hne, hsuffix.trans (List.suffix_cons ..), rfl⟩

section
variable (tree : FileTree) (mode : Nat) (place : Place) (parts : List String)

theorem makeOne_along : NewAlong (· = parts) place tree (tree.makeOne mode place parts).2 := by
  unfold FileTree.makeOne
  cases hmake : tree.make place parts (.directory mode) with
  | error cause => exact .refl tree
  | ok after =>
    obtain ⟨made, rfl, -, hleads⟩ := make_leads hmake
    intro new hnone hnew
    rw [node?_add, hnone, Option.none_or] at hnew
    by_cases hplace : new = made
    · exact ⟨parts, rfl, hplace ▸ hleads⟩
    · exact absurd (if_neg hplace) hnew

theorem makeAll_along (above : List String) :
    NewAlong (OnTheWay parts above) place tree (tree.makeAll mode place parts above).2 := by
  induction above generalizing parts with
  | nil => exact (makeOne_along tree mode place parts).mono fun _ => .inl
  | cons name higher ih =>
    have hone (tree : FileTree) : NewAlong (OnTheWay parts (name :: higher)) place tree _ :=
      (makeOne_along tree mode place parts).mono fun _ => .inl
    have hhigher := (ih (name :: higher).reverse).mono fun _ => OnTheWay.cons parts
    unfold FileTree.makeAll
    split
    · rcases hrest : tree.makeAll mode place (name :: higher).reverse higher with ⟨cause | ⟨⟩, after⟩ <;>
        rw [hrest] at hhigher
      · exact hhigher
      · exact hhigher.trans (hone after) (makeOne_adds after mode place parts)
    · exact hone tree

end

theorem makeDirectories_along (tree : FileTree) (mode : Nat) (here : Place) (path : String) {new : Place}
    (hnone : tree.node? new = none) (hnew : (tree.makeDirectories mode here path).2.node? new ≠ none) :
    ∃ start : String, FileTree.parts start <+: FileTree.parts path ∧
      (tree.makeDirectories mode here path).2.resolve here start = .ok new := by
  unfold FileTree.makeDirectories at hnew ⊢
  split at hnew
  · exact absurd hnone hnew
  · next hempty =>
    rw [if_neg hempty]
    cases hcheck : check path with
    | error cause =>
      rw [hcheck] at hnew
      exact absurd hnone hnew
    | ok =>
      rw [hcheck] at hnew
      obtain ⟨way, hway, hleads⟩ := tree.makeAll_along mode _ _ _ new hnone hnew
      rcases hway with rfl | ⟨up, hne, hsuffix, rfl⟩
      · exact ⟨path, List.prefix_rfl, resolve_ok_iff.mpr ⟨hcheck, hleads⟩⟩
      · have hnames : up.reverse <+: names path :=
          (List.reverse_prefix.mpr hsuffix).trans (by rw [List.reverse_reverse]; exact List.dropLast_prefix _)
        obtain ⟨start, hstart, hparts, hsome, hstarts⟩ := exists_start_of_names hnames (by simpa using hne)
        refine ⟨start, hparts, resolve_ok_iff.mpr ⟨check_of_begins hstart hsome hcheck, ?_⟩⟩
        rw [start_of_begins hstart hsome]
        exact hstarts hleads

/-! ## What is made in the end -/

theorem leadsToDirectory_iff {tree : FileTree} {place : Place} {parts : List String} :
    tree.leadsToDirectory place parts = true ↔
      ∃ dest, tree.Leads .find maxLinks place parts dest ∧ tree.isDirectoryAt dest = true := by
  simp only [← walk_ok_iff (show Purpose.find ≠ .create by decide)]
  unfold leadsToDirectory
  cases tree.walk .find maxLinks place parts <;> simp

section
variable {tree after : FileTree} {mode : Nat} {place : Place} {parts : List String}

theorem makeOne_leads (h : tree.makeOne mode place parts = (.ok (), after)) :
    after.leadsToDirectory place parts = true := by
  unfold FileTree.makeOne at h
  cases hmake : tree.make place parts (.directory mode) with
  | ok made =>
    rw [hmake] at h
    cases h
    obtain ⟨dest, -, hdirectory, hleads⟩ := make_leads hmake
    exact leadsToDirectory_iff.mpr ⟨dest, hleads, hdirectory⟩
  | error cause =>
    rw [hmake] at h
    obtain ⟨hanswer, rfl⟩ := Prod.mk.inj h
    by_cases hthere : tree.leadsToDirectory place parts = true
    · exact hthere
    · rw [if_neg hthere] at hanswer
      cases hanswer

theorem makeAll_leads {above : List String} (h : tree.makeAll mode place parts above = (.ok (), after)) :
    after.leadsToDirectory place parts = true := by
  cases above with
  | nil => exact makeOne_leads h
  | cons name higher =>
    unfold FileTree.makeAll at h
    split at h
    · split at h
      · cases h
      · exact makeOne_leads h
    · exact makeOne_leads h

end

theorem makeDirectories_leads {tree after : FileTree} {mode : Nat} {here : Place} {path : String}
    (h : tree.makeDirectories mode here path = (.ok (), after)) (hne : path ≠ "") :
    ∃ dest, after.resolve here path = .ok dest ∧ after.isDirectoryAt dest = true := by
  rw [makeDirectories, if_neg (by simpa using hne)] at h
  cases hcheck : check path with
  | error cause =>
    rw [hcheck] at h
    cases h
  | ok =>
    rw [hcheck] at h
    obtain ⟨dest, hleads, hinside⟩ := leadsToDirectory_iff.mp (makeAll_leads h)
    exact ⟨dest, resolve_ok_iff.mpr ⟨hcheck, hleads⟩, hinside⟩

/-! ## Seeing to the data directory -/

theorem ensureDataDir_of_resolve {tree : FileTree} {here place : Place} {path : String}
    (h : tree.resolve here path = .ok place) : tree.ensureDataDir here path = (.ok (), tree) := by
  have hexists : tree.exists? here path = true := by
    rw [FileTree.exists?, h]
    rfl
  rw [ensureDataDir, if_pos hexists]

theorem ensureDataDir_along (tree : FileTree) (here : Place) (path : String) {new : Place}
    (hnone : tree.node? new = none) (hnew : (tree.ensureDataDir here path).2.node? new ≠ none) :
    ∃ start : String, FileTree.parts start <+: FileTree.parts path ∧
      (tree.ensureDataDir here path).2.resolve here start = .ok new := by
  unfold ensureDataDir at hnew ⊢
  split at hnew
  · exact absurd hnone hnew
  · next hmissing =>
    rw [if_neg hmissing]
    exact makeDirectories_along tree 0o700 here path hnone hnew

end FileTree

namespace Settings

/-- However a setup ends, all that was there is there still, and what is new is a directory for the owner alone where
some of the first parts of the path of the data directory lead. Nothing is new if the level is unknown or the path
led somewhere already. -/
theorem setUp_confined (settings : Settings) (home : String) (here : Place) (tree : FileTree) :
    let path := settings.dataPath home
    let after := (settings.setUp home here tree).2
    (∀ place node, tree.node? place = some node → after.node? place = some node) ∧
    (∀ place node, tree.node? place = none → after.node? place = some node →
      node = .directory 0o700 ∧
        ∃ start : String, FileTree.parts start <+: FileTree.parts path ∧ after.resolve here start = .ok place) ∧
    (∀ name, settings.logLevel = some name → LogLevel.ofName? name = none → after = tree) ∧
    (∀ place, tree.resolve here path = .ok place → after = tree) := by
  intro path after
  have hadds : FileTree.Adds 0o700 tree after := settings.setUp_adds home here tree
  have htree : after = _ := settings.setUp_tree home here tree
  refine ⟨fun place node => hadds.node, fun place node hnone hnode => ⟨?_, ?_⟩, fun name hname hlevel => ?_,
    fun place hplace => ?_⟩
  · rcases hadds.node_cases hnode with hbefore | ⟨_, rfl⟩
    · rw [hnone] at hbefore
      cases hbefore
    · rfl
  · cases hlimit : settings.limit with
    | error cause =>
      rw [hlimit] at htree
      rw [htree, hnone] at hnode
      cases hnode
    | ok limit =>
      rw [hlimit] at htree
      rw [htree] at hnode ⊢
      exact tree.ensureDataDir_along here path hnone (by rw [hnode]; exact Option.some_ne_none node)
  · have hlimit : settings.limit = .error (.unknownLevel name) := by
      rw [limit, hname]
      simp only [hlevel]
    rw [htree, hlimit]
  · cases hlimit : settings.limit with
    | error cause => rw [htree, hlimit]
    | ok limit =>
      rw [htree, hlimit]
      show (tree.ensureDataDir here path).2 = tree
      rw [FileTree.ensureDataDir_of_resolve hplace]

/-- A tree with a file in the way, behind a link. -/
def blockedTree : FileTree :=
  { entries := [(["srv"], .directory 0o755), (["srv", "data"], .file []), (["now"], .link "srv")] }

def blockedSettings : Settings := { postgresUri := "postgres://", dataDir := some "/now/new/../data/ledger" }

theorem blockedSetUp_confined :
    (blockedSettings.setUp "/home" [] blockedTree).1 =
        .error (.config (.noDataDir "/now/new/../data/ledger" .exists)) ∧
      (blockedSettings.setUp "/home" [] blockedTree).2.node? ["srv", "data"] = some (.file []) ∧
      ∃ start : String, FileTree.parts start <+: ["", "now", "new", "..", "data", "ledger"] ∧
        (blockedSettings.setUp "/home" [] blockedTree).2.resolve [] start = .ok ["srv", "new"] := by
  obtain ⟨hkept, hnew, -, -⟩ := setUp_confined blockedSettings "/home" [] blockedTree
  obtain ⟨-, start, hstart, hleads⟩ := hnew ["srv", "new"] (.directory 0o700) (by decide) (by decide +kernel)
  have hparts : FileTree.parts (blockedSettings.dataPath "/home") = ["", "now", "new", "..", "data", "ledger"] := by
    decide +kernel
  exact ⟨by decide +kernel, hkept _ _ (by decide), start, hparts ▸ hstart, hleads⟩

end Settings

end BridgeLedger
