import Mathlib.Data.List.DropRight

/-!
# Paths

`removeTopDir` of `rsdir.cc` takes the last component off a path: what is left of the path of a file
is its directory.
-/

namespace RsDirUtil

/-- The character between the components of a path. -/
def slash : UInt8 := '/'.toUInt8

/-- `RsDirUtil::removeTopDir`: the path up to its last component, less the slashes at the end. -/
def removeTopDir (dir : List UInt8) : List UInt8 :=
  let parent := ((dir.rdropWhile (· == slash)).rdropWhile (· != slash)).rdropWhile (· == slash)
  -- the last index has to be greater than 0, so a parent of one character is none
  if 1 < parent.length then parent else []

/-- The path has one component, and nothing else but slashes. -/
def IsComponent (name : List UInt8) : Prop :=
  ∃ front middle back : List UInt8, name = front ++ (middle ++ back) ∧ (∀ x ∈ front, x = slash) ∧
    (∀ x ∈ back, x = slash) ∧ middle ≠ [] ∧ slash ∉ middle

/-- `removeTopDir` does not change the path of a directory before it gives it back. -/
def IsDirectory (dir : List UInt8) : Prop := 1 < dir.length ∧ dir.rdropWhile (· == slash) = dir

variable {p : UInt8 → Bool} (l : List UInt8) {dir name : List UInt8}

theorem rdropWhile_append_of_forall {back : List UInt8} (h : ∀ x ∈ back, p x = true) :
  (l ++ back).rdropWhile p = l.rdropWhile p
  := by
  induction back using List.reverseRecOn with
  | nil => rw [List.append_nil]
  | append_singleton back x ih =>
    rw [← List.append_assoc, List.rdropWhile_concat_pos _ _ _ (h x (by simp))]
    apply ih
    intro y hy
    apply h y (List.mem_append_left _ hy)

/-- What is dropped of a list with a part that stays is dropped behind it. -/
theorem rdropWhile_append_of_ne_nil {t : List UInt8} (ht : t.rdropWhile p ≠ []) :
  (l ++ t).rdropWhile p = l ++ t.rdropWhile p
  := by
  induction t using List.reverseRecOn with
  | nil => exact absurd rfl ht
  | append_singleton t x ih =>
    rw [← List.append_assoc]
    by_cases hx : p x = true
    · rw [List.rdropWhile_concat_pos _ _ _ hx] at ht ⊢
      rw [List.rdropWhile_concat_pos _ _ _ hx, ih ht]
    · rw [List.rdropWhile_concat_neg _ _ _ hx, List.rdropWhile_concat_neg _ _ _ hx,
        List.append_assoc]

theorem length_rdropWhile_le (p : UInt8 → Bool) (l : List UInt8) :
  (l.rdropWhile p).length ≤ l.length
  := (List.rdropWhile_prefix p _).length_le

/-- The last component is taken off. -/
theorem length_removeTopDir_lt (h : dir ≠ []) :
  (removeTopDir dir).length < dir.length
  := by
  have hpos := List.length_pos_of_ne_nil h
  rw [removeTopDir]
  split
  case isFalse => exact hpos
  case isTrue hlt =>
    apply lt_of_le_of_lt (length_rdropWhile_le _ _)
    have hle := length_rdropWhile_le (· == slash) dir
    have hne : dir.rdropWhile (· == slash) ≠ [] := by
      intro hnil
      rw [hnil] at hlt
      cases hlt
    apply lt_of_lt_of_le _ hle
    apply lt_of_le_of_ne (length_rdropWhile_le _ _)
    intro heq
    have hself := (List.rdropWhile_prefix (· != slash) _).eq_of_length heq
    apply List.rdropWhile_eq_self_iff.mp hself hne
    have hlast := List.rdropWhile_last_not (· == slash) _ hne
    simpa using hlast

/-- The directory of a file is found when it is the path of a directory, and the name of the file a
component. -/
theorem removeTopDir_append_of_isComponent (hname : IsComponent name) :
  removeTopDir (dir ++ slash :: name) =
    if 1 < (dir.rdropWhile (· == slash)).length then dir.rdropWhile (· == slash) else []
  := by
  obtain ⟨front, middle, back, rfl, hfront, hback, hne, hmiddle⟩ := hname
  have hstays : middle.rdropWhile (· == slash) = middle := by
    rw [List.rdropWhile_eq_self_iff]
    intro hne hlast
    apply hmiddle
    rw [← beq_iff_eq.mp hlast]
    exact List.getLast_mem hne
  have hall : ∀ x ∈ middle, (x != slash) = true := by
    intro x hx
    rw [bne_iff_ne]
    rintro rfl
    exact hmiddle hx
  have hslashes : ∀ x ∈ slash :: front, (x == slash) = true := by
    intro x hx
    rw [beq_iff_eq]
    rcases List.mem_cons.mp hx with rfl | hx
    · rfl
    · exact hfront x hx
  have hlast : (dir ++ slash :: front).rdropWhile (· != slash) = dir ++ slash :: front := by
    rw [List.rdropWhile_eq_self_iff]
    intro hne hlast
    rw [List.getLast_append_of_ne_nil _ (List.cons_ne_nil _ _)] at hlast
    have hslash := hslashes _ (List.getLast_mem (List.cons_ne_nil slash front))
    rw [bne, hslash] at hlast
    cases hlast
  have hparent : (((dir ++ slash :: (front ++ (middle ++ back))).rdropWhile (· == slash)).rdropWhile
      (· != slash)).rdropWhile (· == slash) = dir.rdropWhile (· == slash) := by
    have hassoc : dir ++ slash :: (front ++ (middle ++ back)) =
        dir ++ slash :: front ++ middle ++ back := by simp
    rw [hassoc, rdropWhile_append_of_forall _ fun x hx => beq_iff_eq.mpr (hback x hx),
      rdropWhile_append_of_ne_nil _ (by rwa [hstays]), hstays, rdropWhile_append_of_forall _ hall,
      hlast, rdropWhile_append_of_forall _ hslashes]
  rw [removeTopDir, hparent]

theorem isComponent_of_removeTopDir_append (hne : dir ≠ [])
    (heq : removeTopDir (dir ++ slash :: name) = dir) :
  IsComponent name
  := by
  have hback : ∀ x ∈ name.rtakeWhile (· == slash), x = slash := by
    intro x hx
    simpa using List.mem_rtakeWhile_imp hx
  have hmiddle : slash ∉ (name.rdropWhile (· == slash)).rtakeWhile (· != slash) := by
    intro hmem
    simpa using List.mem_rtakeWhile_imp hmem
  have hsplit : name = (name.rdropWhile (· == slash)).rdropWhile (· != slash) ++
      ((name.rdropWhile (· == slash)).rtakeWhile (· != slash) ++
        name.rtakeWhile (· == slash)) := by
    rw [← List.append_assoc, List.rdropWhile_append_rtakeWhile, List.rdropWhile_append_rtakeWhile]
  by_cases hnil : name.rdropWhile (· == slash) = []
  case pos =>
    -- without a name, it is the last component of the directory that is taken off
    have hslashes := List.rdropWhile_eq_nil_iff.mp hnil
    have hlt := length_removeTopDir_lt hne
    have hsame : removeTopDir (dir ++ slash :: name) = removeTopDir dir := by
      have hdrop := @rdropWhile_append_of_forall (· == slash) dir (slash :: name)
        (List.forall_mem_cons.mpr ⟨beq_self_eq_true _, hslashes⟩)
      rw [removeTopDir, removeTopDir, hdrop]
    rw [← hsame, heq] at hlt
    exact absurd hlt (lt_irrefl _)
  case neg =>
    refine ⟨_, _, _, hsplit, ?_, hback, ?_, hmiddle⟩
    · by_contra hfront
      have hstays : ((name.rdropWhile (· == slash)).rdropWhile (· != slash)).rdropWhile
          (· == slash) ≠ [] := by
        rw [ne_eq, List.rdropWhile_eq_nil_iff]
        simpa using hfront
      have hfrontne : (name.rdropWhile (· == slash)).rdropWhile (· != slash) ≠ [] := by
        intro hempty
        rw [hempty] at hstays
        exact hstays rfl
      have hassoc : dir ++ slash :: name = dir ++ [slash] ++ name := by simp
      rw [removeTopDir, hassoc, rdropWhile_append_of_ne_nil _ hnil,
        rdropWhile_append_of_ne_nil _ hfrontne, rdropWhile_append_of_ne_nil _ hstays] at heq
      have hlength := congrArg List.length heq
      have hpos := List.length_pos_of_ne_nil hne
      split at hlength
      · simp only [List.length_append, List.length_singleton] at hlength
        omega
      · rw [List.length_nil] at hlength
        omega
    · intro hempty
      rw [List.rtakeWhile_eq_nil_iff] at hempty
      apply hempty hnil
      have hlast := List.rdropWhile_last_not (· == slash) name hnil
      simpa using hlast

theorem removeTopDir_append_iff :
  dir ≠ [] ∧ removeTopDir (dir ++ slash :: name) = dir ↔ IsDirectory dir ∧ IsComponent name
  := by
  constructor
  case mpr =>
    rintro ⟨⟨hlength, hdir⟩, hname⟩
    rw [removeTopDir_append_of_isComponent hname, hdir, if_pos hlength]
    exact ⟨List.ne_nil_of_length_pos (by omega), rfl⟩
  case mp =>
    rintro ⟨hne, heq⟩
    have hname : IsComponent name := isComponent_of_removeTopDir_append hne heq
    rw [removeTopDir_append_of_isComponent hname] at heq
    split at heq
    case isTrue hlength =>
      rw [heq] at hlength
      exact ⟨⟨hlength, heq⟩, hname⟩
    case isFalse => exact absurd heq.symm hne

end RsDirUtil
