import BridgeLedger.Proofs.Forms
import BridgeLedger.Setup

/-!
# How trees change

Trees are alike if they have the same nodes in the same places, whatever the files contain: no walk tells them apart
(`FileTree.Alike.walk`). Appending to a file leaves a tree alike. Making directories, on the other hand, adds
directories behind all that is there, and does nothing else (`FileTree.makeAll_adds`), however it ends; and so does
setting up (`Settings.setUp_adds`).
-/

namespace BridgeLedger

theorem lookup_replaced {κ β : Type} [BEq κ] [LawfulBEq κ] [DecidableEq κ] (entries : List (κ × β)) (key : κ)
    (value : β) (k : κ) :
    (entries.map fun entry => if entry.1 = key then (key, value) else entry).lookup k =
      if k = key then (entries.lookup k).map fun _ => value else entries.lookup k := by
  induction entries with
  | nil => simp
  | cons entry rest ih =>
    obtain ⟨first, old⟩ := entry
    rw [List.map_cons, List.lookup_cons]
    by_cases hk : k = first
    · subst hk
      by_cases hkey : k = key <;> simp [hkey]
    · have hne : (k == first) = false := beq_eq_false_iff_ne.mpr hk
      by_cases hkey : first = key
      · subst hkey
        simpa [List.lookup_cons, hne, hk] using ih
      · simpa [List.lookup_cons, hne, hkey] using ih

theorem FileTree.isDirectoryAt_iff {tree : FileTree} {place : Place} :
    tree.isDirectoryAt place = true ↔ ∃ mode, tree.node? place = some (.directory mode) := by
  unfold FileTree.isDirectoryAt
  cases tree.node? place with
  | none => simp
  | some node => cases node <;> simp

/-! ## Trees that differ in what files contain -/

inductive Node.Alike : Node → Node → Prop
  | same (node : Node) : Alike node node
  | file (content content' : List UInt8) : Alike (.file content) (.file content')

def FileTree.Alike (tree other : FileTree) : Prop :=
  ∀ place, Option.Rel Node.Alike (tree.node? place) (other.node? place)

namespace FileTree

theorem Alike.refl (tree : FileTree) : tree.Alike tree := by
  intro place
  cases tree.node? place with
  | none => exact .none
  | some node => exact .some (.same node)

theorem Alike.trans {tree other third : FileTree} (hfirst : tree.Alike other) (hsecond : other.Alike third) :
    tree.Alike third := by
  intro place
  have hleft := hfirst place
  have hright := hsecond place
  generalize tree.node? place = a, other.node? place = b, third.node? place = c at hleft hright ⊢
  cases hleft with
  | none => exact hright
  | some halike =>
    cases hright with
    | some halike' =>
      cases halike with
      | same => exact .some halike'
      | file content content' => cases halike' <;> exact .some (.file _ _)

section
variable {tree other : FileTree} (h : tree.Alike other)
include h

theorem Alike.isDirectoryAt (place : Place) : tree.isDirectoryAt place = other.isDirectoryAt place := by
  unfold FileTree.isDirectoryAt
  have hnode := h place
  generalize tree.node? place = a, other.node? place = b at hnode ⊢
  cases hnode with
  | none => rfl
  | some halike => cases halike <;> rfl

theorem Alike.advance (purpose : Purpose) (place : Place) (parts : List String) :
    tree.advance purpose place parts = other.advance purpose place parts := by
  induction parts generalizing place with
  | nil => rfl
  | cons part rest ih =>
    have hnode := h (place ++ [part])
    simp only [FileTree.advance, h.isDirectoryAt, ih]
    generalize tree.node? (place ++ [part]) = a, other.node? (place ++ [part]) = b at hnode ⊢
    cases hnode with
    | none => rfl
    | some halike => cases halike <;> rfl

theorem Alike.walk (purpose : Purpose) (links : Nat) (place : Place) (parts : List String) :
    tree.walk purpose links place parts = other.walk purpose links place parts := by
  induction links generalizing place parts with
  | zero =>
    unfold FileTree.walk
    rw [h.advance]
  | succ links ih =>
    unfold FileTree.walk
    simp only [h.advance, ih]

theorem Alike.resolve (here : Place) (path : String) : tree.resolve here path = other.resolve here path := by
  simp only [FileTree.resolve, h.walk]

end

/-! ## Writing on -/

theorem node?_replace {tree : FileTree} {place : Place} (hplace : place ≠ []) (node : Node) (p : Place) :
    (tree.replace place node).node? p = if p = place then (tree.node? p).map fun _ => node else tree.node? p := by
  cases p with
  | nil => exact (if_neg hplace.symm).symm
  | cons name names => exact lookup_replaced tree.entries place node (name :: names)

theorem append_alike (tree : FileTree) (place : Place) (text : String) : tree.Alike (tree.append place text) := by
  unfold FileTree.append
  cases hnode : tree.node? place with
  | none => exact .refl tree
  | some node =>
    cases node with
    | directory | link | socket => exact .refl tree
    | file content =>
      have hplace : place ≠ [] := by
        rintro rfl
        cases hnode
      intro p
      rw [node?_replace hplace]
      by_cases hp : p = place
      · rw [if_pos hp, hp, hnode]
        exact .some (.file _ _)
      · rw [if_neg hp]
        exact Alike.refl tree p

/-! ## Further directories -/

/-- The later tree has further directories of that mode, behind all that was there before. -/
def Adds (mode : Nat) (before after : FileTree) : Prop :=
  ∃ places : List Place, after.entries = before.entries ++ places.map fun place => (place, .directory mode)

theorem Adds.refl (mode : Nat) (tree : FileTree) : Adds mode tree tree := ⟨[], by simp⟩

theorem Adds.trans {mode : Nat} {before middle after : FileTree} (hfirst : Adds mode before middle)
    (hsecond : Adds mode middle after) : Adds mode before after := by
  obtain ⟨places, hplaces⟩ := hfirst
  obtain ⟨others, hothers⟩ := hsecond
  exact ⟨places ++ others, by rw [hothers, hplaces, List.map_append, List.append_assoc]⟩

theorem Adds.node {mode : Nat} {before after : FileTree} (h : Adds mode before after) {place : Place} {node : Node}
    (hnode : before.node? place = some node) : after.node? place = some node := by
  obtain ⟨places, hplaces⟩ := h
  cases place with
  | nil => exact hnode
  | cons name names =>
    have hlookup : before.entries.lookup (name :: names) = some node := hnode
    show after.entries.lookup (name :: names) = some node
    rw [hplaces, List.lookup_append, hlookup, Option.some_or]

theorem Adds.node_cases {mode : Nat} {before after : FileTree} (h : Adds mode before after) {place : Place}
    {node : Node} (hnode : after.node? place = some node) :
    before.node? place = some node ∨ before.node? place = none ∧ node = .directory mode := by
  obtain ⟨places, hplaces⟩ := h
  cases place with
  | nil => exact .inl hnode
  | cons name names =>
    have hlookup : after.entries.lookup (name :: names) = some node := hnode
    rw [hplaces, List.lookup_append, Option.or_eq_some_iff] at hlookup
    refine hlookup.imp id (And.imp id fun hadded => ?_)
    obtain ⟨_, _, hsplit, _⟩ := List.lookup_eq_some_iff.mp hadded
    have hmem : (name :: names, node) ∈ places.map fun place => (place, .directory mode) := by
      rw [hsplit]
      exact List.mem_append_cons_self ..
    obtain ⟨_, _, hpair⟩ := List.mem_map.mp hmem
    exact (Prod.mk.inj hpair).2.symm

theorem Adds.file {mode : Nat} {before after : FileTree} (h : Adds mode before after) {place : Place}
    {content : List UInt8} (hfile : after.node? place = some (.file content)) :
    before.node? place = some (.file content) := by
  rcases h.node_cases hfile with hbefore | ⟨_, hdirectory⟩
  · exact hbefore
  · cases hdirectory

theorem Adds.isDirectoryAt {mode : Nat} {before after : FileTree} (h : Adds mode before after) {place : Place}
    (hinside : before.isDirectoryAt place = true) : after.isDirectoryAt place = true := by
  obtain ⟨mode', hnode⟩ := isDirectoryAt_iff.mp hinside
  exact isDirectoryAt_iff.mpr ⟨mode', h.node hnode⟩

theorem make_ok {tree after : FileTree} {place : Place} {parts : List String} {node : Node}
    (h : tree.make place parts node = .ok after) :
    ∃ above name, (trim parts).getLast? = some name ∧
      tree.walk .find maxLinks place ((trim parts).dropLast ++ [""]) = .ok above ∧
      (name ≠ "." ∧ name ≠ "..") ∧ name.utf8ByteSize ≤ 255 ∧ tree.node? (above ++ [name]) = none ∧
      after = tree.add (above ++ [name]) node := by
  unfold FileTree.make at h
  cases hname : (trim parts).getLast? with
  | none =>
    rw [hname] at h
    cases h
  | some name =>
    rw [hname] at h
    obtain ⟨above, hwalk, h⟩ := bind_ok_iff.mp h
    split at h
    · cases h
    · next hdots =>
      split at h
      · cases h
      · next hshort =>
        split at h
        · cases h
        · next hfree =>
          exact ⟨above, name, rfl, hwalk, not_or.mp hdots, Nat.le_of_not_lt hshort, by simpa using hfree,
            (Except.ok.inj h).symm⟩

theorem make_adds {tree after : FileTree} {place : Place} {parts : List String} {mode : Nat}
    (h : tree.make place parts (.directory mode) = .ok after) : Adds mode tree after := by
  obtain ⟨above, name, -, -, -, -, -, rfl⟩ := make_ok h
  exact ⟨[above ++ [name]], rfl⟩

section
variable (tree : FileTree) (mode : Nat) (place : Place) (parts : List String)

theorem makeOne_adds : Adds mode tree (tree.makeOne mode place parts).2 := by
  unfold FileTree.makeOne
  cases hmake : tree.make place parts (.directory mode) with
  | ok after => exact make_adds hmake
  | error cause => exact .refl mode tree

theorem makeAll_adds (above : List String) : Adds mode tree (tree.makeAll mode place parts above).2 := by
  induction above generalizing parts with
  | nil => exact makeOne_adds tree mode place parts
  | cons name higher ih =>
    have hhigher := ih (name :: higher).reverse
    unfold FileTree.makeAll
    split
    · rcases hrest : tree.makeAll mode place (name :: higher).reverse higher with ⟨cause | ⟨⟩, after⟩ <;>
        rw [hrest] at hhigher
      · exact hhigher
      · exact hhigher.trans (makeOne_adds after mode place parts)
    · exact makeOne_adds tree mode place parts

end

theorem makeDirectories_adds (tree : FileTree) (mode : Nat) (here : Place) (path : String) :
    Adds mode tree (tree.makeDirectories mode here path).2 := by
  unfold FileTree.makeDirectories
  split
  · exact .refl mode tree
  · split
    · exact .refl mode tree
    · exact makeAll_adds ..

theorem ensureDataDir_adds (tree : FileTree) (here : Place) (path : String) :
    Adds 0o700 tree (tree.ensureDataDir here path).2 := by
  unfold FileTree.ensureDataDir
  split
  · exact .refl _ tree
  · exact makeDirectories_adds ..

end FileTree

/-- Setting up changes the tree only if the level is known, and then only by seeing to the data directory. -/
theorem Settings.setUp_tree (settings : Settings) (home : String) (here : Place) (tree : FileTree) :
    (settings.setUp home here tree).2 =
      match settings.limit with
      | .error _ => tree
      | .ok _ => (tree.ensureDataDir here (settings.dataPath home)).2 := by
  unfold setUp
  cases settings.limit with
  | error cause => rfl
  | ok limit =>
    rcases hensure : tree.ensureDataDir here (settings.dataPath home) with ⟨cause | ⟨⟩, after⟩ <;> simp only [hensure]

/-- Setting up adds directories for the owner alone, whether or not it succeeds. -/
theorem Settings.setUp_adds (settings : Settings) (home : String) (here : Place) (tree : FileTree) :
    FileTree.Adds 0o700 tree (settings.setUp home here tree).2 := by
  rw [setUp_tree]
  cases settings.limit with
  | error cause => exact .refl _ tree
  | ok limit => exact tree.ensureDataDir_adds here (settings.dataPath home)

end BridgeLedger
