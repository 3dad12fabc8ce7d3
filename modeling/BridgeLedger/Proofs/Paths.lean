import BridgeLedger.FileTree
import Mathlib.Data.List.Basic
import Mathlib.Data.List.Induction

/-!
# Paths as texts

A path is cut at its slashes. What holds of all its characters holds of those of its parts, no part has a slash, and
the first parts of a path are the parts of a beginning of it (`FileTree.exists_start`). The path of a place is cut
into the names of the place again (`FileTree.parts_text`), and ends in the last of them (`Place.text_concat`).
-/

namespace BridgeLedger

/-! ## Cutting a text -/

section
variable {sep : Char} {text piece : List Char}

theorem of_mem_splitOn {c : Char} (hpiece : piece ∈ text.splitOn sep) (hc : c ∈ piece) : c ∈ text ∧ c ≠ sep := by
  induction text generalizing piece with
  | nil =>
    rw [List.splitOn_nil, List.mem_singleton] at hpiece
    rw [hpiece] at hc
    cases hc
  | cons first text ih =>
    rw [List.splitOn_cons_eq_if_modifyHead] at hpiece
    have hrest : ∀ {piece}, piece ∈ text.splitOn sep → c ∈ piece → c ∈ first :: text ∧ c ≠ sep :=
      fun hpiece hc => (ih hpiece hc).imp_left (List.mem_cons_of_mem first)
    by_cases hfirst : (first == sep) = true
    · rw [if_pos hfirst] at hpiece
      rcases List.mem_cons.mp hpiece with rfl | hpiece
      · cases hc
      · exact hrest hpiece hc
    · rw [if_neg hfirst] at hpiece
      cases htext : text.splitOn sep with
      | nil => exact absurd htext (List.splitOn_ne_nil sep text)
      | cons head tail =>
        rw [htext, List.modifyHead_cons] at hpiece
        rw [htext] at hrest
        rcases List.mem_cons.mp hpiece with rfl | hpiece
        · rcases List.mem_cons.mp hc with rfl | hc
          · exact ⟨List.mem_cons_self, by simpa using hfirst⟩
          · exact hrest List.mem_cons_self hc
        · exact hrest (List.mem_cons_of_mem head hpiece) hc

theorem intercalate_begins (sep : Char) (pieces rest : List (List Char)) :
    [sep].intercalate pieces <+: [sep].intercalate (pieces ++ rest) := by
  induction pieces with
  | nil => exact List.nil_prefix
  | cons piece pieces ih =>
    cases pieces with
    | nil =>
      cases rest with
      | nil => exact List.prefix_rfl
      | cons next rest =>
        rw [List.singleton_append, List.intercalate_cons_cons, List.append_assoc, List.intercalate_singleton]
        exact List.prefix_append piece _
    | cons next pieces =>
      rw [List.cons_append, List.cons_append, List.intercalate_cons_cons, List.intercalate_cons_cons]
      exact (List.prefix_append_right_inj _).mpr ih

/-- The first pieces of a text are the pieces of a beginning of it. -/
theorem exists_of_splitOn {pieces : List (List Char)} (hbegins : pieces <+: text.splitOn sep) (hne : pieces ≠ []) :
    ∃ start, start <+: text ∧ start.splitOn sep = pieces := by
  obtain ⟨rest, hrest⟩ := hbegins
  refine ⟨[sep].intercalate pieces, ?_, List.splitOn_intercalate sep (fun piece hpiece hsep => ?_) hne⟩
  · have htext := intercalate_begins sep pieces rest
    rwa [hrest, List.intercalate_splitOn] at htext
  · have hmem : piece ∈ text.splitOn sep := hrest ▸ List.mem_append_left rest hpiece
    exact (of_mem_splitOn hmem hsep).2 rfl

end

namespace FileTree

/-! ## The parts of a path -/

theorem of_mem_parts {path part : String} {c : Char} (hpart : part ∈ FileTree.parts path) (hc : c ∈ part.toList) :
    c ∈ path.toList ∧ c ≠ '/' := by
  obtain ⟨piece, hpiece, rfl⟩ := List.mem_map.mp hpart
  rw [String.toList_ofList] at hc
  exact of_mem_splitOn hpiece hc

theorem exists_start {path : String} {parts : List String} (hbegins : parts <+: FileTree.parts path)
    (hne : parts ≠ []) : ∃ start : String, start.toList <+: path.toList ∧ FileTree.parts start = parts := by
  obtain ⟨pieces, hpieces, rfl⟩ := List.prefix_map_iff.mp hbegins
  have hpieces' : pieces ≠ [] := fun h => hne (by rw [h, List.map_nil])
  obtain ⟨start, hstart, hsplit⟩ := exists_of_splitOn hpieces hpieces'
  refine ⟨String.ofList start, ?_, ?_⟩
  · rwa [String.toList_ofList]
  · rw [FileTree.parts, String.toList_ofList, hsplit]

/-! ## What the system refuses without looking -/

theorem check_eq_ok {path : String} :
    check path = .ok () ↔ '\x00' ∉ path.toList ∧ path ≠ "" ∧ path.utf8ByteSize < pathLimit := by
  unfold check
  by_cases hnul : '\x00' ∈ path.toList <;> by_cases hempty : path = "" <;>
    by_cases hlong : pathLimit ≤ path.utf8ByteSize <;> simp_all [Nat.not_lt_of_le, Nat.lt_of_not_le]

theorem check_of_begins {path start : String} (hbegins : start.toList <+: path.toList) (hne : start ≠ "")
    (hcheck : check path = .ok ()) : check start = .ok () := by
  obtain ⟨rest, hrest⟩ := hbegins
  obtain rfl : path = start ++ String.ofList rest := by
    rw [← String.toList_inj, String.toList_append, String.toList_ofList, hrest]
  obtain ⟨hnul, -, hshort⟩ := check_eq_ok.mp hcheck
  rw [String.toList_append, List.mem_append, not_or] at hnul
  rw [String.utf8ByteSize_append] at hshort
  exact check_eq_ok.mpr ⟨hnul.1, hne, Nat.lt_of_le_of_lt (Nat.le_add_right ..) hshort⟩

theorem start_of_begins {path start : String} (hbegins : start.toList <+: path.toList) (hne : start ≠ "")
    (here : Place) : FileTree.start here start = FileTree.start here path := by
  unfold FileTree.start isAbsolute
  obtain ⟨rest, hrest⟩ := hbegins
  cases hstart : start.toList with
  | nil => exact absurd (String.toList_eq_nil_iff.mp hstart) hne
  | cons c more => rw [← hrest, hstart, List.cons_append, List.head?_cons, List.head?_cons]

end FileTree

/-! ## The path of a place -/

theorem FileTree.size_le_join (path name : String) : path.utf8ByteSize ≤ (FileTree.join path name).utf8ByteSize := by
  unfold FileTree.join
  split
  · rw [String.utf8ByteSize_append]
    exact Nat.le_add_right ..
  · rw [String.utf8ByteSize_append, String.utf8ByteSize_append, Nat.add_assoc]
    exact Nat.le_add_right ..

theorem intercalate_concat (sep : String) {texts : List String} (hne : texts ≠ []) (last : String) :
    sep.intercalate (texts ++ [last]) = sep.intercalate texts ++ sep ++ last := by
  induction texts with
  | nil => exact absurd rfl hne
  | cons text texts ih =>
    cases texts with
    | nil => rw [List.singleton_append, String.intercalate_cons_cons, String.intercalate_singleton,
        String.intercalate_singleton]
    | cons next texts =>
      rw [List.cons_append, List.cons_append, String.intercalate_cons_cons, String.intercalate_cons_cons,
        ← List.cons_append, ih (List.cons_ne_nil next texts)]
      simp only [String.append_assoc]

/-- A name that can stand between two slashes of a path and means what it says. -/
structure PlainName (name : String) : Prop where
  named : name ≠ "" ∧ name ≠ "." ∧ name ≠ ".."
  short : name.utf8ByteSize ≤ 255
  whole : '/' ∉ name.toList ∧ '\x00' ∉ name.toList

namespace Place

theorem isAbsolute_text (place : Place) : FileTree.isAbsolute place.text = true := by
  rw [Place.text, FileTree.isAbsolute, String.toList_append]
  rfl

theorem start_text (here place : Place) : FileTree.start here place.text = [] := by
  rw [FileTree.start, if_pos place.isAbsolute_text]

theorem text_concat_of_ne {place : Place} (hne : place ≠ []) (name : String) :
    Place.text (place ++ [name]) = place.text ++ "/" ++ name := by
  rw [Place.text, Place.text, intercalate_concat "/" hne]
  simp only [String.append_assoc]

theorem of_mem_text {place : Place} {c : Char} (hc : c ∈ place.text.toList) :
    c = '/' ∨ ∃ name ∈ place, c ∈ name.toList := by
  induction place using List.reverseRecOn with
  | nil =>
    left
    simpa [Place.text] using hc
  | append_singleton front name ih =>
    by_cases hfront : front = []
    · subst hfront
      simpa [Place.text] using hc
    · rw [text_concat_of_ne hfront, String.toList_append, String.toList_append, List.mem_append, List.mem_append] at hc
      rcases hc with (hc | hc) | hc
      · exact (ih hc).imp_right fun ⟨other, hother, hmem⟩ => ⟨other, List.mem_append_left _ hother, hmem⟩
      · exact .inl (by simpa using hc)
      · exact .inr ⟨name, by simp, hc⟩

theorem exists_text_concat (place : Place) (name : String) :
    ∃ before, Place.text (place ++ [name]) = before ++ name := by
  by_cases hplace : place = []
  · exact ⟨"/", by rw [hplace]; exact congrArg ("/" ++ ·) String.intercalate_singleton⟩
  · exact ⟨place.text ++ "/", text_concat_of_ne hplace name⟩

theorem text_concat {place : Place} (hplain : ∀ name ∈ place, PlainName name) (name : String) :
    Place.text (place ++ [name]) = FileTree.join place.text name := by
  rcases List.eq_nil_or_concat place with rfl | ⟨front, last, rfl⟩
  · exact congrArg ("/" ++ ·) String.intercalate_singleton
  · rw [List.concat_eq_append] at hplain ⊢
    obtain ⟨before, hbefore⟩ := exists_text_concat front last
    have hlast : PlainName last := hplain last (by simp)
    have hslash : (Place.text (front ++ [last])).toList.getLast? ≠ some '/' := by
      rw [hbefore, String.toList_append, List.getLast?_append_of_ne_nil _ (by simpa using hlast.named.1)]
      exact fun h => hlast.whole.1 (List.mem_of_getLast? h)
    have hempty : (Place.text (front ++ [last])).isEmpty = false := by
      simp [Place.text]
    rw [text_concat_of_ne (by simp), FileTree.join, hempty, if_neg (by simpa using hslash)]

end Place

namespace FileTree

theorem parts_text {place : Place} (hplain : ∀ name ∈ place, PlainName name) (hne : place ≠ []) :
    FileTree.parts place.text = "" :: place := by
  have hwhole : ∀ piece ∈ place.map String.toList, '/' ∉ piece := by
    intro piece hpiece
    obtain ⟨name, hname, rfl⟩ := List.mem_map.mp hpiece
    exact (hplain name hname).whole.1
  have htext : place.text.toList = '/' :: ['/'].intercalate (place.map String.toList) := by
    rw [Place.text, String.toList_append, String.toList_intercalate]
    rfl
  rw [FileTree.parts, htext, List.splitOn_cons_eq_if_modifyHead, if_pos (by rfl),
    List.splitOn_intercalate '/' hwhole (by simpa using hne), List.map_cons, List.map_map]
  simp

theorem no_dots_in_text {place : Place} (hplain : ∀ name ∈ place, PlainName name) {part : String}
    (hpart : part ∈ FileTree.parts place.text) : part ≠ "." ∧ part ≠ ".." := by
  by_cases hplace : place = []
  · subst hplace
    revert hpart part
    decide +kernel
  · rw [parts_text hplain hplace] at hpart
    rcases List.mem_cons.mp hpart with rfl | hpart
    · decide
    · exact (hplain part hpart).named.2

end FileTree

end BridgeLedger
