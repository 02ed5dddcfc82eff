import Bookpress.Proofs.Picture.Bounds
import Bookpress.Proofs.Picture.Rows
import Bookpress.Picture.Pixmap

/-!
# What trimming cuts away

A picture whose samples are all there keeps, when it is cropped, every sample of every point in the
box.  Trimming crops it to the least box of the points that differ from the one in the top-left
corner.

* `byte_crop` : the samples of a point of a cropped picture are those of the point it was.
* `trim_cuts_border` : with it, trimming cuts the border away and nothing else.
-/

namespace Bookpress
namespace Picture

/-! ## points -/

namespace Pixmap
variable {m n : Pixmap} {b : Box} {x y : Nat}

/-- a picture has samples, and all of them. -/
structure Sound (m : Pixmap) : Prop where
  channels : 0 < m.channels
  size : m.samples.size = m.width * m.height * m.pointSize

/-- the point in a column and a row is not the one in the top-left corner. -/
def Differs (m : Pixmap) (x y : Nat) : Prop :=
  x < m.width ∧ y < m.height ∧ m.rgba x y ≠ m.rgba 0 0

/-- the byte `k` of the samples of a point. -/
def byte (m : Pixmap) (x y k : Nat) : UInt8 :=
  byteAt m.samples ((y * m.width + x) * m.pointSize + k)

/-- the colour of a point depends on its own samples only. -/
theorem rgba_congr {x' y' : Nat} (hc : n.channels = m.channels) (hd : n.deep = m.deep)
    (hpos : 0 < m.channels) (h : ∀ k, k < m.pointSize → n.byte x' y' k = m.byte x y k) :
    n.rgba x' y' = m.rgba x y := by
  have hsize : n.pointSize = m.pointSize := by rw [pointSize, pointSize, hc, hd]
  have hsample : ∀ c, c < m.channels →
      n.sample8 ((y' * n.width + x') * n.pointSize) c
        = m.sample8 ((y * m.width + x) * m.pointSize) c := by
    intro c hcm
    unfold sample8
    rw [hd]
    by_cases hdeep : m.deep = true
    · have h₁ := h (2 * c) (by rw [pointSize, if_pos hdeep]; omega)
      have h₂ := h (2 * c + 1) (by rw [pointSize, if_pos hdeep]; omega)
      unfold byte at h₁ h₂
      rw [if_pos hdeep, if_pos hdeep, high16, high16, h₁, Nat.add_assoc, h₂, Nat.add_assoc]
    · rw [if_neg hdeep, if_neg hdeep]
      exact h c (by rw [pointSize, if_neg hdeep]; omega)
  -- each number of channels reads the samples it has
  unfold rgba
  rw [hc]
  by_cases h₁ : m.channels = 1
  · rw [if_pos h₁, if_pos h₁, hsample 0 hpos]
  · rw [if_neg h₁, if_neg h₁]
    by_cases h₂ : m.channels = 2
    · rw [if_pos h₂, if_pos h₂, hsample 0 hpos, hsample 1 (by omega)]
    · rw [if_neg h₂, if_neg h₂]
      by_cases h₃ : m.channels = 3
      · rw [if_pos h₃, if_pos h₃, hsample 0 hpos, hsample 1 (by omega), hsample 2 (by omega)]
      · rw [if_neg h₃, if_neg h₃, hsample 0 hpos, hsample 1 (by omega), hsample 2 (by omega),
          hsample 3 (by omega)]

/-! ## cropping -/

/-- a box lies in a picture. -/
structure Inside (b : Box) (m : Pixmap) : Prop where
  columns : b.left ≤ b.right
  rows : b.top ≤ b.bottom
  width : b.right < m.width
  height : b.bottom < m.height

/-- the samples of a row of a picture from the left to the right side of a box. -/
def rowIn (m : Pixmap) (b : Box) (k : Nat) : ByteArray :=
  m.samples.extract (((b.top + k) * m.width + b.left) * m.pointSize)
    (((b.top + k) * m.width + b.left) * m.pointSize + b.width * m.pointSize)

theorem size_rowIn (hm : m.Sound) (hb : Inside b m) {k : Nat} (hk : k < b.height) :
    (m.rowIn b k).size = b.width * m.pointSize := by
  obtain ⟨h₁, h₂, h₃, h₄⟩ := hb
  have hcolumns : b.left + b.width ≤ m.width := by
    unfold Box.width
    omega
  have hrows : b.top + k + 1 ≤ m.height := by
    unfold Box.height at hk
    omega
  have hend : (b.top + k) * m.width + b.left + b.width ≤ m.width * m.height :=
    calc (b.top + k) * m.width + b.left + b.width
        ≤ (b.top + k) * m.width + m.width := by omega
      _ = (b.top + k + 1) * m.width := (Nat.succ_mul _ _).symm
      _ ≤ m.height * m.width := Nat.mul_le_mul_right _ hrows
      _ = m.width * m.height := Nat.mul_comm _ _
  have hbytes := Nat.mul_le_mul_right m.pointSize hend
  rw [Nat.add_mul] at hbytes
  rw [rowIn, ByteArray.size_extract, hm.size]
  omega

theorem sound_crop (hm : m.Sound) (hb : Inside b m) : (m.crop b).Sound where
  channels := hm.channels
  size := by
    have := size_foldRows (n := b.height) fun k hk => size_rowIn hm hb hk
    calc (m.crop b).samples.size = b.height * (b.width * m.pointSize) := this
      _ = b.width * b.height * m.pointSize := by rw [← Nat.mul_assoc, Nat.mul_comm b.height]

theorem byte_crop (hm : m.Sound) (hb : Inside b m) (hx : x < b.width) (hy : y < b.height)
    {k : Nat} (hk : k < m.pointSize) :
    (m.crop b).byte x y k = m.byte (b.left + x) (b.top + y) k := by
  have hi : x * m.pointSize + k < b.width * m.pointSize := by
    have := Nat.mul_le_mul_right m.pointSize hx
    rw [Nat.succ_mul] at this
    omega
  calc (m.crop b).byte x y k
      = byteAt (m.crop b).samples (y * (b.width * m.pointSize) + (x * m.pointSize + k)) := by
        rw [← Nat.add_assoc, ← Nat.mul_assoc, ← Nat.add_mul]
        rfl
    _ = byteAt (m.rowIn b y) (x * m.pointSize + k) :=
        byteAt_foldRows (fun k hk => size_rowIn hm hb hk) hy hi
    _ = byteAt m.samples
          (((b.top + y) * m.width + b.left) * m.pointSize + (x * m.pointSize + k)) :=
        byteAt_extract (Nat.add_lt_add_left hi _)
    _ = m.byte (b.left + x) (b.top + y) k := by
        rw [← Nat.add_assoc, ← Nat.add_mul, Nat.add_assoc]
        rfl

theorem rgba_crop (hm : m.Sound) (hb : Inside b m) (hx : x < b.width) (hy : y < b.height) :
    (m.crop b).rgba x y = m.rgba (b.left + x) (b.top + y) :=
  rgba_congr rfl rfl hm.channels fun _ hk => byte_crop hm hb hx hy hk

/-! ## trimming -/

/-- the least and greatest columns and rows of the points that differ from the one in the corner,
run over the whole picture. -/
def extremes (m : Pixmap) : Box := m.grid.extremes fun x y => m.rgba x y != m.rgba 0 0

theorem spans_bounds? (m : Pixmap) : Spans m.Differs m.grid.bounds? :=
  (Grid.spans_boxOf? m.grid fun x y => m.rgba x y != m.rgba 0 0).congr fun x y => by
    simp [Differs, grid]

theorem bounds?_of_differs (h : m.Differs x y) :
    m.grid.bounds? = some m.extremes ∧ m.extremes.Bounds m.Differs := by
  have hs := spans_bounds? m
  have he : m.extremes = m.grid.bounds?.getD ⟨m.width, m.height, 0, 0⟩ :=
    Grid.extremes_eq m.grid fun x y => m.rgba x y != m.rgba 0 0
  cases hb : m.grid.bounds? with
  | none =>
    rw [hb] at hs
    exact absurd h (hs x y)
  | some b =>
    rw [hb] at hs he
    rw [he]
    exact ⟨rfl, hs⟩

theorem inside_of_bounds (h : b.Bounds m.Differs) : Inside b m where
  columns := h.ordered.1
  rows := h.ordered.2
  width := by
    obtain ⟨y, hy⟩ := h.onRight
    exact hy.1
  height := by
    obtain ⟨x, hx⟩ := h.onBottom
    exact hx.2.1

theorem trim_of_uniform (h : ∀ x y, ¬ m.Differs x y) : m.trim = m := by
  have hs := spans_bounds? m
  unfold trim
  cases hb : m.grid.bounds? with
  | none => rfl
  | some b =>
    rw [hb] at hs
    obtain ⟨y, hy⟩ := hs.onLeft
    exact absurd hy (h _ _)

/-- `n` is what stays of `m` in the box `b`, when the border around it is cut away. -/
structure Trimmed (m : Pixmap) (b : Box) (n : Pixmap) : Prop where
  /-- the differing points lie in the box, and one of them on each of its sides. -/
  bounds : b.Bounds m.Differs
  /-- no smaller rectangle holds them. -/
  least : ∀ d : Box, (∀ x y, m.Differs x y → d.Holds x y) →
    d.left ≤ b.left ∧ d.top ≤ b.top ∧ b.right ≤ d.right ∧ b.bottom ≤ d.bottom
  /-- the sides are in order and in the picture. -/
  inside : Inside b m
  /-- what is cut away has the colour of the corner. -/
  cut : ∀ x y, x < m.width → y < m.height → ¬ b.Holds x y → m.rgba x y = m.rgba 0 0
  /-- what is kept reaches from side to side. -/
  size : n.width + b.left = b.right + 1 ∧ n.height + b.top = b.bottom + 1
  /-- something is kept. -/
  nonempty : 1 ≤ n.width ∧ 1 ≤ n.height
  /-- the points that are kept, with all their samples. -/
  kept : ∀ x y, x < n.width → y < n.height → n.rgba x y = m.rgba (b.left + x) (b.top + y)
    ∧ ∀ k, k < m.pointSize → n.byte x y k = m.byte (b.left + x) (b.top + y) k
  /-- the form of the samples stays. -/
  form : n.channels = m.channels ∧ n.deep = m.deep
  /-- no sample is missing. -/
  sound : n.Sound

theorem trimmed_crop (hm : m.Sound) (h : b.Bounds m.Differs) : Trimmed m b (m.crop b) where
  bounds := h
  least _ hd := h.least hd
  inside := inside_of_bounds h
  cut := by
    intro x y hx hy hout
    by_contra hne
    exact hout (h.holds x y ⟨hx, hy, hne⟩)
  size := by
    have := (inside_of_bounds h).columns
    have := (inside_of_bounds h).rows
    simp only [crop, Box.width, Box.height]
    omega
  nonempty := ⟨Nat.succ_pos _, Nat.succ_pos _⟩
  kept _ _ hx hy := ⟨rgba_crop hm (inside_of_bounds h) hx hy,
    fun _ hk => byte_crop hm (inside_of_bounds h) hx hy hk⟩
  form := ⟨rfl, rfl⟩
  sound := sound_crop hm (inside_of_bounds h)

/-- **Trimming cuts the border away.**  A picture in which no point differs from the one in the
top-left corner stays as it is; any other becomes its part in the least rectangle that holds the
points that differ, whose sides are their running extremes. -/
theorem trim_cuts_border (hm : m.Sound) :
    ((∀ x y, x < m.width → y < m.height → m.rgba x y = m.rgba 0 0) → m.trim = m)
      ∧ ((∃ x y, m.Differs x y) → Trimmed m m.extremes m.trim) := by
  constructor
  · intro h
    exact trim_of_uniform fun x y hd => hd.2.2 (h x y hd.1 hd.2.1)
  · rintro ⟨x, y, hd⟩
    obtain ⟨hb, hbounds⟩ := bounds?_of_differs hd
    have htrim : m.trim = m.crop m.extremes := by rw [trim, hb]
    rw [htrim]
    exact trimmed_crop hm hbounds

/-- a dot in the last column of a gray square. -/
def dotted : Pixmap := ⟨3, 3, 1, false, ⟨#[9, 9, 9, 9, 9, 4, 9, 9, 9]⟩⟩

/-- the border around a dot. -/
theorem trim_cuts_border_dotted :
    dotted.Sound ∧ dotted.Differs 2 1 ∧ dotted.extremes = ⟨2, 1, 2, 1⟩
      ∧ Trimmed dotted dotted.extremes dotted.trim := by
  have hsound : dotted.Sound := ⟨by decide, rfl⟩
  have hdiffers : dotted.Differs 2 1 := ⟨by decide, by decide, by decide⟩
  exact ⟨hsound, hdiffers, by decide, (trim_cuts_border hsound).2 ⟨2, 1, hdiffers⟩⟩

end Pixmap
end Picture
end Bookpress
