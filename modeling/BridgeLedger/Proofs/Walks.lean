import BridgeLedger.Proofs.Trees

/-!
# Where walks lead

A walk goes part by part: it stays where it is, goes up, enters what a part names, or follows a link there. The relation
`FileTree.Leads` says so one part at a time, and the walk succeeds just where the relation holds
(`FileTree.walk_ok_iff`). Walks can therefore be cut and joined at any part, lose no way when directories are added, and
do not notice parts that say nothing.
-/

namespace BridgeLedger

namespace FileTree

/-- The part is the name of that node in the directory, and a walk may go there. -/
structure Finds (tree : FileTree) (purpose : Purpose) (place : Place) (part : String) (node : Node) : Prop where
  inside : tree.isDirectoryAt place = true
  named : part ≠ "" ∧ part ≠ "." ∧ part ≠ ".."
  short : part.utf8ByteSize ≤ 255
  nameable : purpose = .name → (Place.text (place ++ [part])).utf8ByteSize < pathLimit
  there : tree.node? (place ++ [part]) = some node

/-- From the place, the parts lead to the last place over at most so many links. -/
inductive Leads (tree : FileTree) (purpose : Purpose) : (links : Nat) → Place → List String → Place → Prop
  | done {links : Nat} {place : Place} : Leads tree purpose links place [] place
  | stay {links : Nat} {place dest : Place} {part : String} {rest : List String}
      (inside : tree.isDirectoryAt place = true) (idle : part = "" ∨ part = ".")
      (onward : Leads tree purpose links place rest dest) : Leads tree purpose links place (part :: rest) dest
  | up {links : Nat} {place dest : Place} {rest : List String} (inside : tree.isDirectoryAt place = true)
      (onward : Leads tree purpose links place.dropLast rest dest) : Leads tree purpose links place (".." :: rest) dest
  | enter {links : Nat} {place dest : Place} {part : String} {rest : List String} {node : Node}
      (found : tree.Finds purpose place part node) (direct : ∀ target, node ≠ .link target)
      (onward : Leads tree purpose links (place ++ [part]) rest dest) :
      Leads tree purpose links place (part :: rest) dest
  | follow {links : Nat} {place dest : Place} {part target : String} {rest : List String}
      (found : tree.Finds purpose place part (.link target))
      (onward : Leads tree purpose links (start place target) (FileTree.parts target ++ rest) dest) :
      Leads tree purpose (links + 1) place (part :: rest) dest

/-! ## One part -/

section
variable {tree : FileTree} {purpose : Purpose} {place : Place} {part : String}

theorem advance_stay (inside : tree.isDirectoryAt place = true) (idle : part = "" ∨ part = ".")
    (rest : List String) : tree.advance purpose place (part :: rest) = tree.advance purpose place rest := by
  rw [FileTree.advance, if_pos inside, if_pos idle]

theorem advance_up (inside : tree.isDirectoryAt place = true) (rest : List String) :
    tree.advance purpose place (".." :: rest) = tree.advance purpose place.dropLast rest := by
  rw [FileTree.advance, if_pos inside, if_neg (by decide), if_pos rfl]

theorem advance_found {node : Node} (hpurpose : purpose ≠ .create) (found : tree.Finds purpose place part node)
    (rest : List String) :
    tree.advance purpose place (part :: rest) =
      match node with
      | .link target => .ok (.link place target rest)
      | _ => tree.advance purpose (place ++ [part]) rest := by
  obtain ⟨inside, ⟨hempty, hdot, hup⟩, short, nameable, there⟩ := found
  have hnameable : ¬ (purpose = .name ∧ pathLimit ≤ (Place.text (place ++ [part])).utf8ByteSize) :=
    fun ⟨hname, hlong⟩ => Nat.not_le_of_lt (nameable hname) hlong
  rw [FileTree.advance, if_pos inside, if_neg (not_or.mpr ⟨hempty, hdot⟩), if_neg hup,
    if_neg fun h => hpurpose h.1, if_neg (Nat.not_lt_of_le short), if_neg hnameable, there]
  cases node <;> rfl

theorem advance_enter {node : Node} (hpurpose : purpose ≠ .create) (found : tree.Finds purpose place part node)
    (direct : ∀ target, node ≠ .link target) (rest : List String) :
    tree.advance purpose place (part :: rest) = tree.advance purpose (place ++ [part]) rest := by
  rw [advance_found hpurpose found]
  cases node with
  | link target => exact absurd rfl (direct target)
  | directory | file | socket => rfl

theorem advance_cases {rest : List String} {walk : Walk} (hpurpose : purpose ≠ .create)
    (h : tree.advance purpose place (part :: rest) = .ok walk) :
    (tree.isDirectoryAt place = true ∧ (part = "" ∨ part = ".")) ∨
      (tree.isDirectoryAt place = true ∧ part = "..") ∨ ∃ node, tree.Finds purpose place part node := by
  rw [FileTree.advance] at h
  by_cases inside : tree.isDirectoryAt place = true
  · rw [if_pos inside] at h
    by_cases idle : part = "" ∨ part = "."
    · exact .inl ⟨inside, idle⟩
    · rw [if_neg idle] at h
      by_cases hup : part = ".."
      · exact .inr (.inl ⟨inside, hup⟩)
      · rw [if_neg hup, if_neg fun h => hpurpose h.1] at h
        obtain ⟨hempty, hdot⟩ := not_or.mp idle
        split at h
        · cases h
        · next short =>
          split at h
          · cases h
          · next nameable =>
            cases there : tree.node? (place ++ [part]) with
            | none =>
              rw [there] at h
              simp only [hpurpose, false_and, ite_false] at h
              cases h
            | some node =>
              exact .inr (.inr ⟨node, inside, ⟨hempty, hdot, hup⟩, Nat.le_of_not_lt short,
                fun hname => Nat.lt_of_not_le fun hlong => nameable ⟨hname, hlong⟩, there⟩)
  · rw [if_neg inside] at h
    cases h

end

/-! ## Whole walks -/

section
variable {tree : FileTree} {purpose : Purpose} {links : Nat} {place dest : Place} {parts : List String}

theorem walk_of_advance {place' : Place} {parts' : List String}
    (h : tree.advance purpose place parts = tree.advance purpose place' parts') :
    tree.walk purpose links place parts = tree.walk purpose links place' parts' := by
  cases links <;> rw [FileTree.walk, FileTree.walk, h]

theorem Leads.walk_ok (hpurpose : purpose ≠ .create) (h : tree.Leads purpose links place parts dest) :
    tree.walk purpose links place parts = .ok dest := by
  induction h with
  | done => cases ‹Nat› <;> rfl
  | stay inside idle _ ih => rw [walk_of_advance (advance_stay inside idle _), ih]
  | up inside _ ih => rw [walk_of_advance (advance_up inside _), ih]
  | enter found direct _ ih => rw [walk_of_advance (advance_enter hpurpose found direct _), ih]
  | follow found _ ih =>
    rw [FileTree.walk, advance_found hpurpose found]
    exact ih

theorem leads_of_advance (hpurpose : purpose ≠ .create) {walk : Walk}
    (h : tree.advance purpose place parts = .ok walk) :
    match walk with
    | .arrived dest => ∀ links, tree.Leads purpose links place parts dest
    | .link base target rest => ∀ links dest,
        tree.Leads purpose links (start base target) (FileTree.parts target ++ rest) dest →
          tree.Leads purpose (links + 1) place parts dest := by
  induction parts generalizing place with
  | nil =>
    cases h
    exact fun _ => .done
  | cons part rest ih =>
    rcases advance_cases hpurpose h with ⟨inside, idle⟩ | ⟨inside, rfl⟩ | ⟨node, found⟩
    · rw [advance_stay inside idle] at h
      have hrest := ih h
      cases walk with
      | arrived => exact fun links => .stay inside idle (hrest links)
      | link => exact fun links dest honward => .stay inside idle (hrest links dest honward)
    · rw [advance_up inside] at h
      have hrest := ih h
      cases walk with
      | arrived => exact fun links => .up inside (hrest links)
      | link => exact fun links dest honward => .up inside (hrest links dest honward)
    · by_cases hlink : ∃ target, node = .link target
      · obtain ⟨target, rfl⟩ := hlink
        rw [advance_found hpurpose found] at h
        cases h
        exact fun links dest honward => .follow found honward
      · have direct : ∀ target, node ≠ .link target := not_exists.mp hlink
        rw [advance_enter hpurpose found direct] at h
        have hrest := ih h
        cases walk with
        | arrived => exact fun links => .enter found direct (hrest links)
        | link => exact fun links dest honward => .enter found direct (hrest links dest honward)

theorem leads_of_walk_ok (hpurpose : purpose ≠ .create) (h : tree.walk purpose links place parts = .ok dest) :
    tree.Leads purpose links place parts dest := by
  fun_induction FileTree.walk tree purpose links place parts with
  | case1 => cases h
  | case2 links place parts dest' hadvance =>
    cases h
    exact leads_of_advance hpurpose hadvance links
  | case3 => cases h
  | case4 place parts base target rest hadvance links ih =>
    exact leads_of_advance hpurpose hadvance links dest (ih h)

theorem walk_ok_iff (hpurpose : purpose ≠ .create) :
    tree.walk purpose links place parts = .ok dest ↔ tree.Leads purpose links place parts dest :=
  ⟨leads_of_walk_ok hpurpose, Leads.walk_ok hpurpose⟩

end

section
variable {tree : FileTree} {here dest : Place} {path : String}

theorem check_bind_ok_iff {walk : Except FileError Place} :
    (do check path; walk) = .ok dest ↔ check path = .ok () ∧ walk = .ok dest :=
  bind_ok_iff.trans ⟨fun ⟨_, hcheck, hwalk⟩ => ⟨hcheck, hwalk⟩, fun ⟨hcheck, hwalk⟩ => ⟨(), hcheck, hwalk⟩⟩

theorem resolve_ok_iff : tree.resolve here path = .ok dest ↔
    check path = .ok () ∧ tree.Leads .find maxLinks (start here path) (FileTree.parts path) dest := by
  rw [FileTree.resolve, check_bind_ok_iff, walk_ok_iff (by decide)]

theorem canonical_ok_iff : tree.canonical here path = .ok dest ↔
    check path = .ok () ∧ tree.Leads .name maxLinks (start here path) (FileTree.parts path) dest := by
  rw [FileTree.canonical, check_bind_ok_iff, walk_ok_iff (by decide)]

end

/-! ## Cutting and joining -/

section
variable {tree : FileTree} {purpose : Purpose} {links : Nat} {place dest : Place} {parts : List String}

theorem Leads.inside {part : String} (h : tree.Leads purpose links place (part :: parts) dest) :
    tree.isDirectoryAt place = true := by
  cases h with
  | stay inside | up inside => exact inside
  | enter found | follow found => exact found.inside

theorem Leads.onward_of_idle {part : String} (h : tree.Leads purpose links place (part :: parts) dest)
    (idle : part = "" ∨ part = ".") : tree.Leads purpose links place parts dest := by
  cases h with
  | stay _ _ onward => exact onward
  | up => simp at idle
  | enter found | follow found =>
    rcases idle with rfl | rfl
    · exact absurd rfl found.named.1
    · exact absurd rfl found.named.2.1

theorem Leads.more (h : tree.Leads purpose links place parts dest) {more : Nat} (hmore : links ≤ more) :
    tree.Leads purpose more place parts dest := by
  induction h generalizing more with
  | done => exact .done
  | stay inside idle _ ih => exact .stay inside idle (ih hmore)
  | up inside _ ih => exact .up inside (ih hmore)
  | enter found direct _ ih => exact .enter found direct (ih hmore)
  | follow found _ ih =>
    obtain ⟨more, rfl⟩ := Nat.exists_eq_add_of_le' hmore
    exact .follow found (ih (Nat.le_add_left ..))

theorem Leads.append {used left : Nat} {middle : Place} {rest : List String}
    (h : tree.Leads purpose used place parts middle) (hrest : tree.Leads purpose left middle rest dest) :
    tree.Leads purpose (used + left) place (parts ++ rest) dest := by
  induction h with
  | done => exact hrest.more (Nat.le_add_left ..)
  | stay inside idle _ ih => exact .stay inside idle (ih hrest)
  | up inside _ ih => exact .up inside (ih hrest)
  | enter found direct _ ih => exact .enter found direct (ih hrest)
  | follow found _ ih =>
    rw [Nat.add_right_comm]
    refine .follow found ?_
    show Leads tree purpose _ _ (_ ++ (_ ++ rest)) dest
    rw [← List.append_assoc]
    exact ih hrest

theorem Leads.split_nil (h : tree.Leads purpose links place parts dest) : ∃ middle used left, used + left = links ∧
    tree.Leads purpose used place [] middle ∧ tree.Leads purpose left middle parts dest :=
  ⟨place, 0, links, Nat.zero_add _, .done, h⟩

theorem Leads.split {before rest : List String} (h : tree.Leads purpose links place parts dest)
    (hparts : parts = before ++ rest) : ∃ middle used left, used + left = links ∧
      tree.Leads purpose used place before middle ∧ tree.Leads purpose left middle rest dest := by
  induction h generalizing before with
  | done =>
    obtain ⟨rfl, rfl⟩ := List.nil_eq_append_iff.mp hparts
    exact Leads.done.split_nil
  | stay inside idle onward ih =>
    rcases before with _ | ⟨first, before⟩
    · subst hparts
      exact (Leads.stay inside idle onward).split_nil
    · obtain ⟨rfl, hrest⟩ := List.cons.inj hparts
      obtain ⟨middle, used, left, hlinks, hbefore, hafter⟩ := ih hrest
      exact ⟨middle, used, left, hlinks, .stay inside idle hbefore, hafter⟩
  | up inside onward ih =>
    rcases before with _ | ⟨first, before⟩
    · subst hparts
      exact (Leads.up inside onward).split_nil
    · obtain ⟨rfl, hrest⟩ := List.cons.inj hparts
      obtain ⟨middle, used, left, hlinks, hbefore, hafter⟩ := ih hrest
      exact ⟨middle, used, left, hlinks, .up inside hbefore, hafter⟩
  | enter found direct onward ih =>
    rcases before with _ | ⟨first, before⟩
    · subst hparts
      exact (Leads.enter found direct onward).split_nil
    · obtain ⟨rfl, hrest⟩ := List.cons.inj hparts
      obtain ⟨middle, used, left, hlinks, hbefore, hafter⟩ := ih hrest
      exact ⟨middle, used, left, hlinks, .enter found direct hbefore, hafter⟩
  | @follow links place dest part target rest' found onward ih =>
    rcases before with _ | ⟨first, before⟩
    · subst hparts
      exact (Leads.follow found onward).split_nil
    · obtain ⟨rfl, rfl⟩ := List.cons.inj hparts
      obtain ⟨middle, used, left, hlinks, hbefore, hafter⟩ := ih (List.append_assoc ..).symm
      exact ⟨middle, used + 1, left, by rw [Nat.add_right_comm, hlinks], .follow found hbefore, hafter⟩

end

/-! ## Parts that say nothing -/

def isStep (part : String) : Bool := part != "" && part != "."

theorem isStep_eq_false {part : String} (h : isStep part = false) : part = "" ∨ part = "." := by
  simpa [isStep, Decidable.or_iff_not_imp_left] using h

theorem leads_of_empty {tree : FileTree} {purpose : Purpose} {place : Place} {parts : List String}
    (inside : tree.isDirectoryAt place = true) (hempty : ∀ part ∈ parts, part = "") :
    tree.Leads purpose 0 place parts place := by
  induction parts with
  | nil => exact .done
  | cons part rest ih =>
    obtain ⟨hpart, hrest⟩ := List.forall_mem_cons.mp hempty
    exact .stay inside (.inl hpart) (ih hrest)

/-- Parts that say nothing may be put in, but not after the last: they take a directory. -/
theorem Leads.of_steps {tree : FileTree} {purpose : Purpose} {links : Nat} {place dest : Place}
    {parts : List String} (hlast : ∀ last ∈ parts.getLast?, isStep last = true)
    (h : tree.Leads purpose links place (parts.filter isStep) dest) : tree.Leads purpose links place parts dest := by
  induction parts generalizing links place with
  | nil => exact h
  | cons part rest ih =>
    have hrest : ∀ last ∈ rest.getLast?, isStep last = true := fun last hmem =>
      hlast last (by rw [List.getLast?_cons, hmem]; rfl)
    by_cases hstep : isStep part = true
    · rw [List.filter_cons_of_pos hstep] at h
      obtain ⟨middle, used, left, rfl, hpart, hafter⟩ := h.split List.singleton_append.symm
      exact hpart.append (ih hrest hafter)
    · rw [List.filter_cons_of_neg hstep] at h
      cases rest with
      | nil => exact absurd (hlast part rfl) hstep
      | cons next rest =>
        have honward := ih hrest h
        exact .stay honward.inside (isStep_eq_false (Bool.eq_false_iff.mpr hstep)) honward

/-! ## Other trees and purposes -/

section
variable {tree after : FileTree} {purpose : Purpose} {links : Nat} {place dest : Place} {parts : List String}

theorem Leads.adds {mode : Nat} (h : tree.Leads purpose links place parts dest) (hadds : Adds mode tree after) :
    after.Leads purpose links place parts dest := by
  have hfinds : ∀ {place part node}, tree.Finds purpose place part node → after.Finds purpose place part node :=
    fun found => { found with inside := hadds.isDirectoryAt found.inside, there := hadds.node found.there }
  induction h with
  | done => exact .done
  | stay inside idle _ ih => exact .stay (hadds.isDirectoryAt inside) idle ih
  | up inside _ ih => exact .up (hadds.isDirectoryAt inside) ih
  | enter found direct _ ih => exact .enter (hfinds found) direct ih
  | follow found _ ih => exact .follow (hfinds found) ih

theorem Leads.find (h : tree.Leads purpose links place parts dest) : tree.Leads .find links place parts dest := by
  have hfinds : ∀ {place part node}, tree.Finds purpose place part node → tree.Finds .find place part node :=
    fun found => { found with nameable := nofun }
  induction h with
  | done => exact .done
  | stay inside idle _ ih => exact .stay inside idle ih
  | up inside _ ih => exact .up inside ih
  | enter found direct _ ih => exact .enter (hfinds found) direct ih
  | follow found _ ih => exact .follow (hfinds found) ih

end

end FileTree

end BridgeLedger
