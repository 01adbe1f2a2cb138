import AllpixGeometry.Vector

/-!
# Geant4 solids as point sets

`build` hands Geant4 boxes, a multi-union of translated boxes and subtraction solids.  Geant4
classifies a point against a solid with `Inside`, which answers `kInside`, `kSurface` or
`kOutside`; this module gives that classification in exact arithmetic, with no surface
tolerance, for the solids `build` creates.  A point is in a solid's interior when it is
`kInside`, and in its closure unless it is `kOutside`.

## Main definitions

* `Box`, `Solid` — `G4Box`, and the `G4MultiUnion` and `G4SubtractionSolid` built from boxes.
* `EInside`, `Solid.inside` — the classification of a point.

## Main results

* `Box.inside_eq_kInside`, `Box.inside_ne_kOutside` — a box's interior and closure.
* `Box.inside_ne_kOutside_of_within` — a box that fits in another along every axis lies in it.
* `multiUnionInside_eq_kInside`, `multiUnionInside_ne_kOutside` — a multi-union is the union of
  its nodes.
* `Solid.inside_subtraction_kInside` — a point inside a subtraction is inside the minuend and
  outside the subtrahend.
-/

namespace Allpix

/-- Geant4's `EInside`. -/
inductive EInside where
  /-- In the interior. -/
  | kInside
  /-- On the surface. -/
  | kSurface
  /-- Outside the closure. -/
  | kOutside
  deriving DecidableEq, Repr

open EInside

/-- `G4Box`, given by its half-lengths and centred at its own origin. -/
structure Box where
  /-- The half-length along `x`. -/
  halfX : ℚ
  /-- The half-length along `y`. -/
  halfY : ℚ
  /-- The half-length along `z`. -/
  halfZ : ℚ
  deriving DecidableEq, Repr

/-- Where a point lies relative to a box. -/
def Box.inside (b : Box) (p : XYZVector) : EInside :=
  if |p.x| < b.halfX ∧ |p.y| < b.halfY ∧ |p.z| < b.halfZ then kInside
  else if |p.x| ≤ b.halfX ∧ |p.y| ≤ b.halfY ∧ |p.z| ≤ b.halfZ then kSurface
  else kOutside

/-- The solids `build` creates. -/
inductive Solid where
  /-- A `G4Box`. -/
  | box (b : Box)
  /-- A `G4MultiUnion` of boxes, each translated by its node's transform. -/
  | multiUnion (nodes : List (Box × XYZVector))
  /-- A `G4SubtractionSolid`: `minuend` less `subtrahend` translated by `translation`. -/
  | subtraction (minuend subtrahend : Solid) (translation : XYZVector)
  deriving Repr

/-- Where a point lies relative to a multi-union: inside when inside one of its nodes. -/
def multiUnionInside (nodes : List (Box × XYZVector)) (p : XYZVector) : EInside :=
  if nodes.any (fun n => n.1.inside (p - n.2) = kInside) then kInside
  else if nodes.any (fun n => n.1.inside (p - n.2) = kSurface) then kSurface
  else kOutside

/-- Where a point lies relative to a subtraction, as `G4SubtractionSolid::Inside` combines the
answers of its two solids. -/
def subtractionInside : EInside → EInside → EInside
  | kOutside, _ => kOutside
  | kInside, kOutside => kInside
  | kInside, kSurface => kSurface
  | kInside, kInside => kOutside
  | kSurface, kOutside => kSurface
  | kSurface, kSurface => kSurface
  | kSurface, kInside => kOutside

/-- `Inside(p)` of a solid. -/
def Solid.inside : Solid → XYZVector → EInside
  | .box b, p => b.inside p
  | .multiUnion nodes, p => multiUnionInside nodes p
  | .subtraction a b t, p => subtractionInside (a.inside p) (b.inside (p - t))

theorem Box.inside_eq_kInside {b : Box} {p : XYZVector} :
    b.inside p = kInside ↔ |p.x| < b.halfX ∧ |p.y| < b.halfY ∧ |p.z| < b.halfZ := by
  unfold Box.inside; split_ifs <;> simp_all

theorem Box.inside_ne_kOutside {b : Box} {p : XYZVector} :
    b.inside p ≠ kOutside ↔ |p.x| ≤ b.halfX ∧ |p.y| ≤ b.halfY ∧ |p.z| ≤ b.halfZ := by
  unfold Box.inside
  split_ifs with h1 h2
  · simp only [ne_eq, reduceCtorEq, not_false_eq_true, true_iff]
    exact ⟨h1.1.le, h1.2.1.le, h1.2.2.le⟩
  · simpa using h2
  · simpa using h2

/-- A box `a` at `c` that fits in a box `b` at `d` along every axis: its closure lies in `b`'s
closure. -/
theorem Box.inside_ne_kOutside_of_within {a b : Box} {c d p : XYZVector}
    (hx : |c.x - d.x| + a.halfX ≤ b.halfX) (hy : |c.y - d.y| + a.halfY ≤ b.halfY)
    (hz : |c.z - d.z| + a.halfZ ≤ b.halfZ) (h : a.inside (p - c) ≠ kOutside) :
    b.inside (p - d) ≠ kOutside := by
  rw [Box.inside_ne_kOutside] at h ⊢
  simp only [XYZVector.sub_x, XYZVector.sub_y, XYZVector.sub_z] at h ⊢
  exact ⟨(abs_sub_le _ c.x _).trans (by linarith [h.1]),
    (abs_sub_le _ c.y _).trans (by linarith [h.2.1]),
    (abs_sub_le _ c.z _).trans (by linarith [h.2.2])⟩

/-- The same for interiors. -/
theorem Box.inside_eq_kInside_of_within {a b : Box} {c d p : XYZVector}
    (hx : |c.x - d.x| + a.halfX ≤ b.halfX) (hy : |c.y - d.y| + a.halfY ≤ b.halfY)
    (hz : |c.z - d.z| + a.halfZ ≤ b.halfZ) (h : a.inside (p - c) = kInside) :
    b.inside (p - d) = kInside := by
  rw [Box.inside_eq_kInside] at h ⊢
  simp only [XYZVector.sub_x, XYZVector.sub_y, XYZVector.sub_z] at h ⊢
  exact ⟨(abs_sub_le _ c.x _).trans_lt (by linarith [h.1]),
    (abs_sub_le _ c.y _).trans_lt (by linarith [h.2.1]),
    (abs_sub_le _ c.z _).trans_lt (by linarith [h.2.2])⟩

theorem multiUnionInside_eq_kInside {nodes : List (Box × XYZVector)} {p : XYZVector} :
    multiUnionInside nodes p = kInside ↔ ∃ n ∈ nodes, n.1.inside (p - n.2) = kInside := by
  unfold multiUnionInside; split_ifs <;> simp_all

theorem multiUnionInside_ne_kOutside {nodes : List (Box × XYZVector)} {p : XYZVector} :
    multiUnionInside nodes p ≠ kOutside ↔ ∃ n ∈ nodes, n.1.inside (p - n.2) ≠ kOutside := by
  have hcases : ∀ e : EInside, e ≠ kOutside ↔ e = kInside ∨ e = kSurface := by
    intro e; cases e <;> simp
  simp only [hcases, multiUnionInside]
  split_ifs with h1 h2
  · simp only [List.any_eq_true, decide_eq_true_eq] at h1
    obtain ⟨n, hn, h⟩ := h1
    exact iff_of_true (.inl rfl) ⟨n, hn, .inl h⟩
  · simp only [List.any_eq_true, decide_eq_true_eq] at h2
    obtain ⟨n, hn, h⟩ := h2
    exact iff_of_true (.inr rfl) ⟨n, hn, .inr h⟩
  · simp_all

/-- A point in a subtraction's closure is in the minuend's closure. -/
theorem Solid.inside_subtraction_ne_kOutside {a b : Solid} {t p : XYZVector}
    (h : (Solid.subtraction a b t).inside p ≠ kOutside) : a.inside p ≠ kOutside := by
  simp only [Solid.inside] at h
  intro ha; rw [ha] at h; exact h rfl

/-- A point inside the subtrahend is outside the subtraction. -/
theorem Solid.inside_subtraction_of_kInside {a b : Solid} {t p : XYZVector}
    (h : b.inside (p - t) = kInside) : (Solid.subtraction a b t).inside p = kOutside := by
  simp only [Solid.inside, h]
  cases a.inside p <;> rfl

theorem Solid.inside_subtraction_kInside {a b : Solid} {t p : XYZVector} :
    (Solid.subtraction a b t).inside p = kInside ↔
      a.inside p = kInside ∧ b.inside (p - t) = kOutside := by
  simp only [Solid.inside]
  cases a.inside p <;> cases b.inside (p - t) <;> simp [subtractionInside]

end Allpix
