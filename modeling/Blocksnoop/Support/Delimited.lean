import Mathlib.Data.List.Basic
import Mathlib.Tactic

/-!
# Delimited records

Records of three fields, with one separator between the fields of a record and another
one between records.  Where the first two fields have no inner separator and the last one
no outer one, the text is read from the left; where it is the other way round, it is read
from the right.
-/

namespace Blocksnoop.Support

variable {α : Type*}

theorem append_cons_inj_left {a : α} {xs ys zs ws : List α}
    (hxs : a ∉ xs) (hys : a ∉ ys) (h : xs ++ a :: zs = ys ++ a :: ws) :
    xs = ys ∧ zs = ws := by
  induction xs generalizing ys with
  | nil =>
      cases ys with
      | nil => exact ⟨rfl, (List.cons.inj h).2⟩
      | cons y ys => exact absurd (List.cons.inj h).1 (fun hay => hys (by simp [hay]))
  | cons x xs ih =>
      cases ys with
      | nil => exact absurd (List.cons.inj h).1 (fun hxa => hxs (by simp [hxa]))
      | cons y ys =>
          obtain ⟨rfl, htail⟩ := List.cons.inj h
          obtain ⟨rfl, hrest⟩ := ih (fun hmem => hxs (List.mem_cons_of_mem _ hmem))
            (fun hmem => hys (List.mem_cons_of_mem _ hmem)) htail
          exact ⟨rfl, hrest⟩

/-- The three fields of a record. -/
abbrev Fields (α : Type*) := List α × List α × List α

def renderRecord (inner : α) (r : Fields α) : List α :=
  r.1 ++ inner :: (r.2.1 ++ inner :: r.2.2)

def joinRecords (outer inner : α) (rs : List (Fields α)) : List α :=
  [outer].intercalate (rs.map (renderRecord inner))

section

variable {outer inner : α}

/-- What stands behind the first record. -/
def following (outer inner : α) : List (Fields α) → List α
  | [] => []
  | r :: rs => outer :: joinRecords outer inner (r :: rs)

theorem joinRecords_cons (r : Fields α) (rs : List (Fields α)) :
    joinRecords outer inner (r :: rs) = renderRecord inner r ++ following outer inner rs := by
  cases rs with
  | nil => simp [joinRecords, following]
  | cons r' rs =>
      simp only [joinRecords, following, List.map_cons, List.intercalate_cons_cons,
        List.append_assoc, List.singleton_append]

theorem joinRecords_singleton (r : Fields α) :
    joinRecords outer inner [r] = renderRecord inner r := by
  simp only [joinRecords, List.map_cons, List.map_nil, List.intercalate_singleton]

theorem mem_joinRecords {rs : List (Fields α)} (h : rs ≠ []) :
    inner ∈ joinRecords outer inner rs := by
  obtain ⟨r, rs, rfl⟩ := List.exists_cons_of_ne_nil h
  rw [joinRecords_cons]
  simp [renderRecord]

/-- The fields can be read off from the left. -/
def ReadFromLeft (outer inner : α) (r : Fields α) : Prop :=
  inner ∉ r.1 ∧ inner ∉ r.2.1 ∧ outer ∉ r.2.2

/-- The fields can be read off from the right. -/
def ReadFromRight (outer inner : α) (r : Fields α) : Prop :=
  outer ∉ r.1 ∧ inner ∉ r.2.1 ∧ inner ∉ r.2.2

/-- Two texts that begin with a record each have the same first fields, and the same text
after them. -/
theorem renderRecord_append_inj {r r' : Fields α} {rest rest' : List α}
    (hr : ReadFromLeft outer inner r) (hr' : ReadFromLeft outer inner r')
    (h : renderRecord inner r ++ rest = renderRecord inner r' ++ rest') :
    r.1 = r'.1 ∧ r.2.1 = r'.2.1 ∧ r.2.2 ++ rest = r'.2.2 ++ rest' := by
  unfold renderRecord at h
  simp only [List.append_assoc, List.cons_append] at h
  obtain ⟨hfirst, h⟩ := append_cons_inj_left hr.1 hr'.1 h
  obtain ⟨hsecond, h⟩ := append_cons_inj_left hr.2.1 hr'.2.1 h
  exact ⟨hfirst, hsecond, h⟩

theorem joinRecords_inj_left {rs rs' : List (Fields α)}
    (hrs : ∀ r ∈ rs, ReadFromLeft outer inner r) (hrs' : ∀ r ∈ rs', ReadFromLeft outer inner r)
    (hne : rs ≠ []) (hne' : rs' ≠ []) (h : joinRecords outer inner rs = joinRecords outer inner rs') :
    rs = rs' := by
  induction rs generalizing rs' with
  | nil => exact absurd rfl hne
  | cons r rs ih =>
      obtain ⟨r', rs', rfl⟩ := List.exists_cons_of_ne_nil hne'
      have hr := hrs r List.mem_cons_self
      have hr' := hrs' r' List.mem_cons_self
      rw [joinRecords_cons, joinRecords_cons] at h
      obtain ⟨hfirst, hsecond, hlast⟩ := renderRecord_append_inj hr hr' h
      -- the first outer separator behind the last field ends it
      cases rs with
      | nil =>
          cases rs' with
          | nil =>
              simp only [following, List.append_nil] at hlast
              rw [Prod.ext hfirst (Prod.ext hsecond hlast)]
          | cons s' rs' =>
              simp only [following, List.append_nil] at hlast
              exact absurd (hlast ▸ by simp) hr.2.2
      | cons s rs =>
          cases rs' with
          | nil =>
              simp only [following, List.append_nil] at hlast
              exact absurd (hlast ▸ by simp) hr'.2.2
          | cons s' rs' =>
              obtain ⟨hthird, hrest⟩ := append_cons_inj_left hr.2.2 hr'.2.2 hlast
              have hrest' := ih (fun q hq => hrs q (List.mem_cons_of_mem _ hq))
                (fun q hq => hrs' q (List.mem_cons_of_mem _ hq)) (List.cons_ne_nil _ _)
                (List.cons_ne_nil _ _) hrest
              rw [Prod.ext hfirst (Prod.ext hsecond hthird), hrest']

/-- The record that reads the same from the other side. -/
def Fields.flip (r : Fields α) : Fields α :=
  (r.2.2.reverse, r.2.1.reverse, r.1.reverse)

theorem Fields.flip_injective : Function.Injective (Fields.flip : Fields α → Fields α) := by
  rintro ⟨a, b, c⟩ ⟨a', b', c'⟩ h
  simp only [Fields.flip, Prod.mk.injEq, List.reverse_inj] at h
  obtain ⟨rfl, rfl, rfl⟩ := h
  rfl

theorem reverse_renderRecord (r : Fields α) :
    (renderRecord inner r).reverse = renderRecord inner r.flip := by
  simp [renderRecord, Fields.flip]

theorem joinRecords_append (rs : List (Fields α)) (hne : rs ≠ []) (r : Fields α) :
    joinRecords outer inner (rs ++ [r]) =
      joinRecords outer inner rs ++ outer :: renderRecord inner r := by
  induction rs with
  | nil => exact absurd rfl hne
  | cons s rs ih =>
      cases rs with
      | nil => simp [joinRecords_cons, following]
      | cons s' rs =>
          rw [List.cons_append, joinRecords_cons, joinRecords_cons, List.append_assoc]
          congr 1
          exact congrArg (outer :: ·) (ih (List.cons_ne_nil _ _))

theorem reverse_joinRecords (rs : List (Fields α)) :
    (joinRecords outer inner rs).reverse =
      joinRecords outer inner (rs.reverse.map Fields.flip) := by
  induction rs with
  | nil => rfl
  | cons r rs ih =>
      cases rs with
      | nil => simp [joinRecords_singleton, reverse_renderRecord]
      | cons s rs =>
          have hne : (s :: rs).reverse.map Fields.flip ≠ [] := by simp
          rw [joinRecords_cons, List.reverse_append, List.reverse_cons (a := r), List.map_append,
            List.map_singleton, joinRecords_append _ hne, ← ih, ← reverse_renderRecord]
          simp [following]

theorem joinRecords_inj_right {rs rs' : List (Fields α)}
    (hrs : ∀ r ∈ rs, ReadFromRight outer inner r) (hrs' : ∀ r ∈ rs', ReadFromRight outer inner r)
    (hne : rs ≠ []) (hne' : rs' ≠ []) (h : joinRecords outer inner rs = joinRecords outer inner rs') :
    rs = rs' := by
  have hflip : ∀ {rs : List (Fields α)}, (∀ r ∈ rs, ReadFromRight outer inner r) →
      ∀ r ∈ rs.reverse.map Fields.flip, ReadFromLeft outer inner r := by
    intro rs hrs r hr
    obtain ⟨q, hq, rfl⟩ := List.mem_map.mp hr
    obtain ⟨hfirst, hsecond, hthird⟩ := hrs q (List.mem_reverse.mp hq)
    exact ⟨by simpa [Fields.flip] using hthird, by simpa [Fields.flip] using hsecond,
      by simpa [Fields.flip] using hfirst⟩
  have hreversed := congrArg List.reverse h
  rw [reverse_joinRecords, reverse_joinRecords] at hreversed
  have hsame := joinRecords_inj_left (hflip hrs) (hflip hrs') (by simpa using hne)
    (by simpa using hne') hreversed
  exact List.reverse_injective (List.map_injective_iff.mpr Fields.flip_injective hsame)

end

end Blocksnoop.Support
