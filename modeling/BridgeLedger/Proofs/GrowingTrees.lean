import BridgeLedger.Proofs.NewDirectories

/-!
# Trees that grow

A tree grows if all that was there is there still, whatever files contain, and no link is new. A walk that gets
somewhere gets there in the grown tree too, for whatever purpose (`FileTree.Grows.walk_ok`). Making directories, opening
a file and writing to it all make a tree grow, so a file that was opened once opens again at the same place
(`openFile_again`).
-/

namespace BridgeLedger

theorem Node.Alike.trans {node other third : Node} (hfirst : node.Alike other) (hsecond : other.Alike third) :
    node.Alike third := by
  cases hfirst with
  | same => exact hsecond
  | file content content' => cases hsecond <;> exact .file _ _

namespace FileTree

structure Grows (before after : FileTree) : Prop where
  kept : ∀ {place node}, before.node? place = some node → ∃ node', after.node? place = some node' ∧ node.Alike node'
  links : ∀ {place target}, after.node? place = some (.link target) → before.node? place = some (.link target)

theorem Grows.trans {before middle after : FileTree} (hfirst : before.Grows middle) (hsecond : middle.Grows after) :
    before.Grows after where
  kept hnode := by
    obtain ⟨node', hmiddle, halike⟩ := hfirst.kept hnode
    obtain ⟨node'', hafter, halike'⟩ := hsecond.kept hmiddle
    exact ⟨node'', hafter, halike.trans halike'⟩
  links hlink := hfirst.links (hsecond.links hlink)

theorem Alike.grows {before after : FileTree} (h : before.Alike after) : before.Grows after where
  kept {place _} hnode := by
    have hplace := h place
    rw [hnode] at hplace
    cases hafter : after.node? place with
    | none =>
      rw [hafter] at hplace
      cases hplace
    | some node' =>
      rw [hafter] at hplace
      cases hplace with
      | some halike => exact ⟨node', rfl, halike⟩
  links {place _} hlink := by
    have hplace := h place
    rw [hlink] at hplace
    cases hbefore : before.node? place with
    | none =>
      rw [hbefore] at hplace
      cases hplace
    | some node =>
      rw [hbefore] at hplace
      cases hplace with
      | some halike =>
        cases halike
        rfl

theorem Adds.grows {mode : Nat} {before after : FileTree} (h : Adds mode before after) : before.Grows after where
  kept hnode := ⟨_, h.node hnode, .same _⟩
  links hlink := by
    rcases h.node_cases hlink with hbefore | ⟨_, hdirectory⟩
    · exact hbefore
    · cases hdirectory

/-! ## Walks -/

section
variable {before after : FileTree} (h : before.Grows after)
include h

theorem Grows.directory {place : Place} {mode : Nat} (hnode : before.node? place = some (.directory mode)) :
    after.node? place = some (.directory mode) := by
  obtain ⟨node', hafter, halike⟩ := h.kept hnode
  cases halike
  exact hafter

theorem Grows.file {place : Place} {content : List UInt8} (hnode : before.node? place = some (.file content)) :
    ∃ content', after.node? place = some (.file content') := by
  obtain ⟨node', hafter, halike⟩ := h.kept hnode
  cases halike <;> exact ⟨_, hafter⟩

theorem Grows.isDirectoryAt {place : Place} (hinside : before.isDirectoryAt place = true) :
    after.isDirectoryAt place = true := by
  obtain ⟨mode, hnode⟩ := isDirectoryAt_iff.mp hinside
  exact isDirectoryAt_iff.mpr ⟨mode, h.directory hnode⟩

variable {purpose : Purpose}

theorem Grows.arrive_ok {place next : Place} {rest : List String} {walk : Walk}
    (ih : ∀ {place}, before.advance purpose place rest = .ok walk → after.advance purpose place rest = .ok walk)
    (hok : (match before.node? next with
      | none => if purpose = .create ∧ rest = [] then .ok (.arrived next) else .error .notFound
      | some (.link target) => .ok (.link place target rest)
      | some _ => before.advance purpose next rest) = Except.ok walk) :
    (match after.node? next with
      | none => if purpose = .create ∧ rest = [] then .ok (.arrived next) else .error .notFound
      | some (.link target) => .ok (.link place target rest)
      | some _ => after.advance purpose next rest) = Except.ok walk := by
  cases hnode : before.node? next with
  | none =>
    rw [hnode] at hok
    simp only at hok
    split at hok
    · next hend =>
      cases hok
      obtain ⟨rfl, rfl⟩ := hend
      cases hafter : after.node? next with
      | none => rfl
      | some node =>
        cases node with
        | link target => cases hnode.symm.trans (h.links hafter)
        | directory | file | socket => rfl
    · cases hok
  | some node =>
    obtain ⟨node', hafter, halike⟩ := h.kept hnode
    rw [hnode] at hok
    rw [hafter]
    cases halike with
    | file => exact ih hok
    | same =>
      cases node with
      | link => exact hok
      | directory | file | socket => exact ih hok

theorem Grows.advance_ok {place : Place} {parts : List String} {walk : Walk}
    (hok : before.advance purpose place parts = .ok walk) : after.advance purpose place parts = .ok walk := by
  induction parts generalizing place with
  | nil => exact hok
  | cons part rest ih =>
    rw [FileTree.advance] at hok ⊢
    split at hok
    · next inside =>
      rw [if_pos (h.isDirectoryAt inside)]
      simp only at hok ⊢
      -- the two trees are asked the same questions up to the name itself
      split at hok
      · next idle => rw [if_pos idle, ih hok]
      · next idle =>
        rw [if_neg idle]
        split at hok
        · next hup => rw [if_pos hup, ih hok]
        · next hup =>
          rw [if_neg hup]
          split at hok
          · cases hok
          · next hslash =>
            rw [if_neg hslash]
            split at hok
            · cases hok
            · next hshort =>
              rw [if_neg hshort]
              split at hok
              · cases hok
              · next hnameable =>
                rw [if_neg hnameable]
                exact h.arrive_ok ih hok
    · cases hok

theorem Grows.walk_ok {links : Nat} {place dest : Place} {parts : List String}
    (hok : before.walk purpose links place parts = .ok dest) : after.walk purpose links place parts = .ok dest := by
  fun_induction FileTree.walk before purpose links place parts with
  | case1 => cases hok
  | case2 links place parts dest' hadvance =>
    rw [FileTree.walk, h.advance_ok hadvance]
    exact hok
  | case3 => cases hok
  | case4 place parts base target rest hadvance links ih =>
    rw [FileTree.walk, h.advance_ok hadvance]
    exact ih hok

theorem Grows.canonical_ok {here dest : Place} {path : String} (hok : before.canonical here path = .ok dest) :
    after.canonical here path = .ok dest := by
  obtain ⟨hcheck, hwalk⟩ := check_bind_ok_iff.mp hok
  exact check_bind_ok_iff.mpr ⟨hcheck, h.walk_ok hwalk⟩

end

/-! ## Reading and opening files -/

/-- The file is there, and if it was there before it has kept what it contains; all else is as it was. -/
structure Opened (place : Place) (before after : FileTree) : Prop where
  others : ∀ other, other ≠ place → after.node? other = before.node? other
  own : (∃ content, before.node? place = some (.file content) ∧ after.node? place = some (.file content)) ∨
    (before.node? place = none ∧ after.node? place = some (.file []))

theorem Opened.grows {place : Place} {before after : FileTree} (h : Opened place before after) :
    before.Grows after where
  kept {other node} hnode := by
    by_cases hother : other = place
    · subst hother
      rcases h.own with ⟨content, hbefore, hafter⟩ | ⟨hbefore, _⟩
      · cases hnode.symm.trans hbefore
        exact ⟨_, hafter, .same _⟩
      · cases hnode.symm.trans hbefore
    · rw [← h.others other hother] at hnode
      exact ⟨node, hnode, .same node⟩
  links {other target} hlink := by
    by_cases hother : other = place
    · subst hother
      rcases h.own with ⟨content, _, hafter⟩ | ⟨_, hafter⟩ <;> cases hlink.symm.trans hafter
    · rwa [h.others other hother] at hlink

theorem Opened.file {place other : Place} {before after : FileTree} {content : List UInt8}
    (h : Opened place before after) (hfile : before.node? other = some (.file content)) :
    after.node? other = some (.file content) := by
  by_cases hother : other = place
  · subst hother
    rcases h.own with ⟨kept, hbefore, hafter⟩ | ⟨hnone, -⟩
    · rwa [hafter, ← hbefore]
    · cases hfile.symm.trans hnone
  · rwa [h.others other hother]

section
variable {tree opened : FileTree} {here place : Place} {path : String}

theorem openFile_ok_iff : tree.openFile here path = .ok (place, opened) ↔
    check path = .ok () ∧ tree.walk .create maxLinks (start here path) (FileTree.parts path) = .ok place ∧
      ((tree.node? place = none ∧ opened = tree.add place (.file [])) ∨
        (∃ content, tree.node? place = some (.file content)) ∧ opened = tree) := by
  constructor
  · intro h
    obtain ⟨_, hcheck, h⟩ := bind_ok_iff.mp h
    obtain ⟨arrived, hwalk, h⟩ := bind_ok_iff.mp h
    refine ⟨hcheck, ?_⟩
    split at h
    · next hnone =>
      cases h
      exact ⟨hwalk, .inl ⟨hnone, rfl⟩⟩
    · next content hfile =>
      cases h
      exact ⟨hwalk, .inr ⟨⟨content, hfile⟩, rfl⟩⟩
    · cases h
    · cases h
  · rintro ⟨hcheck, hwalk, hend⟩
    refine bind_ok_iff.mpr ⟨(), hcheck, bind_ok_iff.mpr ⟨place, hwalk, ?_⟩⟩
    rcases hend with ⟨hnone, rfl⟩ | ⟨⟨content, hfile⟩, rfl⟩
    · rw [hnone]
    · rw [hfile]

theorem openFile_opened (h : tree.openFile here path = .ok (place, opened)) : Opened place tree opened := by
  obtain ⟨-, -, ⟨hnone, rfl⟩ | ⟨⟨content, hfile⟩, rfl⟩⟩ := openFile_ok_iff.mp h
  · refine ⟨fun other hother => ?_, .inr ⟨hnone, ?_⟩⟩
    · rw [node?_add, if_neg hother, Option.or_none]
    · rw [node?_add, if_pos rfl, hnone, Option.none_or]
  · exact ⟨fun _ _ => rfl, .inl ⟨content, hfile, hfile⟩⟩

theorem Opened.exists_file (h : Opened place tree opened) : ∃ content, opened.node? place = some (.file content) := by
  rcases h.own with ⟨content, _, hfile⟩ | ⟨_, hfile⟩ <;> exact ⟨_, hfile⟩

theorem openFile_again {later : FileTree} (h : tree.openFile here path = .ok (place, opened))
    (hgrows : opened.Grows later) : later.openFile here path = .ok (place, later) := by
  have hopened := openFile_opened h
  obtain ⟨hcheck, hwalk, -⟩ := openFile_ok_iff.mp h
  obtain ⟨content, hfile⟩ := hopened.exists_file
  obtain ⟨content', hfile'⟩ := hgrows.file hfile
  exact openFile_ok_iff.mpr ⟨hcheck, (hopened.grows.trans hgrows).walk_ok hwalk, .inr ⟨⟨content', hfile'⟩, rfl⟩⟩

end

/-! ## Writing on -/

/-- Text was written behind what the file contains, if there is one, and nothing else has changed. -/
structure Appended (file : Option Place) (before after : FileTree) : Prop where
  others : ∀ place, file ≠ some place → after.node? place = before.node? place
  own : ∀ place content, file = some place → before.node? place = some (.file content) →
    ∃ more, after.node? place = some (.file (content ++ more))

theorem Appended.refl (file : Option Place) (tree : FileTree) : Appended file tree tree :=
  ⟨fun _ _ => rfl, fun _ content _ hfile => ⟨[], by rw [hfile, List.append_nil]⟩⟩

theorem Appended.trans {file : Option Place} {before middle after : FileTree} (hfirst : Appended file before middle)
    (hsecond : Appended file middle after) : Appended file before after where
  others place hplace := (hsecond.others place hplace).trans (hfirst.others place hplace)
  own place content hplace hfile := by
    obtain ⟨more, hmiddle⟩ := hfirst.own place content hplace hfile
    obtain ⟨more', hafter⟩ := hsecond.own place _ hplace hmiddle
    exact ⟨more ++ more', by rw [hafter, List.append_assoc]⟩

theorem append_appended (tree : FileTree) (place : Place) (text : String) :
    Appended (some place) tree (tree.append place text) := by
  by_cases hfile : ∃ content, tree.node? place = some (.file content)
  · obtain ⟨content, hfile⟩ := hfile
    have hplace : place ≠ [] := by
      rintro rfl
      cases hfile
    rw [FileTree.append, hfile]
    refine ⟨fun other hother => ?_, ?_⟩
    · rw [node?_replace hplace, if_neg fun hsame => hother (congrArg some hsame.symm)]
    · rintro _ content' ⟨⟩ hfile'
      rw [node?_replace hplace, if_pos rfl, hfile]
      cases hfile.symm.trans hfile'
      exact ⟨_, rfl⟩
  · have hsame : tree.append place text = tree := by
      unfold FileTree.append
      split
      · next content hnode => exact absurd ⟨content, hnode⟩ hfile
      · rfl
    rw [hsame]
    exact .refl _ tree

end FileTree

end BridgeLedger
