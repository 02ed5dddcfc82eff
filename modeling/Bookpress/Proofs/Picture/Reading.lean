import Bookpress.Proofs.Picture.Trimming
import Bookpress.Picture.Format

/-!
# Pictures that are read

A picture that is read from a file has all its samples, whatever its format: each point is written
with as many bytes as a point of the picture has.

* `Gif.sound_of_decode?`, `Jpeg.sound_of_decode?`, `Png.sound_of_decode?` : so in each format.
* `sound_of_decode?` : so whatever is read can be trimmed.
-/

namespace Bookpress
namespace Picture

variable {b : ByteArray} {m : Pixmap}

theorem Gif.sound_of_decode? (h : Gif.decode? b = some m) : m.Sound := by
  unfold Gif.decode? at h
  simp only [Option.bind_eq_bind, Option.pure_def] at h
  split at h
  · cases h
  · obtain ⟨f, -, h⟩ := Option.bind_eq_some_iff.1 h
    split at h
    · cases h
    · obtain ⟨indices, -, h⟩ := Option.bind_eq_some_iff.1 h
      cases h
      refine ⟨Nat.succ_pos _, size_foldPoints (fun x y out => ?_) _ _⟩
      simp only [ByteArray.size_push]
      rfl

theorem Jpeg.sound_of_decode? (h : Jpeg.decode? b = some m) : m.Sound := by
  unfold Jpeg.decode? at h
  simp only [Option.bind_eq_bind, Option.pure_def] at h
  split at h
  · cases h
  · obtain ⟨s, -, h⟩ := Option.bind_eq_some_iff.1 h
    obtain ⟨f, -, h⟩ := Option.bind_eq_some_iff.1 h
    cases h
    by_cases hone : f.components.size = 1
    · refine ⟨by simp [hone], size_foldPoints (fun x y out => ?_) _ _⟩
      simp [hone, Pixmap.pointSize]
    · refine ⟨by simp [hone], size_foldPoints (fun x y out => ?_) _ _⟩
      by_cases hthree : f.components.size = 3
      · simp [hthree, Pixmap.pointSize]
      · simp [hone, hthree, Pixmap.pointSize]

namespace Png

theorem Header.channels_pos (h : Header) : 0 < h.channels := by
  unfold Header.channels
  split
  · decide
  · split
    · decide
    · split <;> decide

theorem Header.depth_of_read? {i : Nat} {h : Header} (hr : Header.read? b i = some h) :
    h.depth ∈ depthsOf h.colour := by
  unfold Header.read? at hr
  simp only at hr
  split at hr
  · cases hr
  · rename_i hc
    cases hr
    by_contra hd
    exact hc (.inr (.inr (.inl hd)))

theorem Prelude.header_of_add? {p q : Prelude} {c : Chunk} (h : p.add? c = some q) :
    q.header = p.header := by
  unfold Prelude.add? at h
  split at h
  · split at h
    · cases h
    · cases h
      rfl
  · split at h
    · split at h
      · cases h
      · cases h
        rfl
    · split at h
      · cases h
      · cases h
        rfl

theorem header_of_preludeFrom {fuel i : Nat} {p q : Prelude}
    (h : preludeFrom b fuel i p = some q) : q.header = p.header := by
  induction fuel generalizing i p with
  | zero => cases h
  | succ fuel ih =>
    unfold preludeFrom at h
    split at h
    · cases h
    · split at h
      · cases h
        rfl
      · split at h
        · cases h
        · split at h
          · obtain ⟨p', hp, h⟩ := Option.bind_eq_some_iff.1 h
            rw [ih h, Prelude.header_of_add? hp]
          · split at h
            · exact ih h
            · cases h

theorem depth_of_prelude? {p : Prelude} (h : prelude? b = some p) :
    p.header.depth ∈ depthsOf p.header.colour := by
  unfold prelude? at h
  split at h
  · cases h
  · split at h
    · cases h
    · split at h
      · obtain ⟨hd, hr, h⟩ := Option.bind_eq_some_iff.1 h
        rw [header_of_preludeFrom h]
        exact Header.depth_of_read? hr
      · cases h

/-- the bytes to a sample once it is written. -/
def sampleSize (h : Header) : Nat := if h.depth = 16 then 2 else 1

theorem size_pushSample (h : Header) (out : ByteArray) (n : Nat) :
    (pushSample h out n).size = out.size + sampleSize h := by
  unfold pushSample sampleSize
  split
  · simp
  · split <;> simp

theorem size_pushOpacity (h : Header) (out : ByteArray) (clear : Bool) :
    (pushOpacity h out clear).size = out.size + sampleSize h := by
  unfold pushOpacity sampleSize
  by_cases hd : h.depth = 16 <;> simp [hd]

theorem size_pushIndexed (p : Prelude) (out : ByteArray) (n : Nat) :
    (pushIndexed b p out n).size = out.size + (3 + if p.clear?.isSome then 1 else 0) := by
  unfold pushIndexed
  cases p.clear? <;> simp

theorem size_pushPoint {p : Prelude} (hp : p.header.depth ∈ depthsOf p.header.colour) (r : Raster)
    (x y : Nat) (out : ByteArray) :
    (pushPoint b p r x y out).size = out.size + p.channels * sampleSize p.header := by
  unfold pushPoint Prelude.channels
  by_cases hc : p.header.colour = 3
  · -- a palette has no samples of sixteen bits
    have hd : p.header.depth ≠ 16 := by
      intro hd
      rw [hc, hd] at hp
      exact absurd hp (by decide)
    simp only [hc, if_true, size_pushIndexed, sampleSize, if_neg hd, Nat.mul_one]
  · have hsamples := size_fold (n := p.header.channels)
      (fun k _ out => size_pushSample p.header out (r.sample (r.bitOf x y) k)) out
    simp only [hc, if_false]
    cases p.clear? with
    | none => simpa using hsamples
    | some c =>
      simp only [size_pushOpacity, hsamples, Option.isSome_some, if_true, Nat.succ_mul,
        Nat.add_assoc]

theorem sound_of_decode? (h : Png.decode? b = some m) : m.Sound := by
  unfold Png.decode? at h
  simp only [Option.bind_eq_bind, Option.pure_def] at h
  obtain ⟨p, hp, h⟩ := Option.bind_eq_some_iff.1 h
  have hdepth := depth_of_prelude? hp
  split at h
  · cases h
  · obtain ⟨packed, -, h⟩ := Option.bind_eq_some_iff.1 h
    obtain ⟨data, -, h⟩ := Option.bind_eq_some_iff.1 h
    obtain ⟨x, -, h⟩ := Option.bind_eq_some_iff.1 h
    cases h
    refine ⟨?_, ?_⟩
    · have hpos := p.header.channels_pos
      simp only [Prelude.channels]
      split <;> omega
    · have hsize : ∀ s : ByteArray, Pixmap.pointSize ⟨p.header.width, p.header.height, p.channels,
          p.header.depth == 16, s⟩ = p.channels * sampleSize p.header := by
        intro s
        by_cases hd : p.header.depth = 16
        · simp [Pixmap.pointSize, sampleSize, hd, Nat.mul_comm]
        · simp [Pixmap.pointSize, sampleSize, hd]
      rw [hsize]
      exact size_foldPoints (fun x y out => size_pushPoint hdepth _ x y out) _ _

end Png

/-- **A picture that is read has all its samples.** -/
theorem sound_of_decode? (h : decode? b = some m) : m.Sound := by
  unfold decode? at h
  split at h
  · cases h
  · exact Png.sound_of_decode? h
  · exact Jpeg.sound_of_decode? h
  · exact Gif.sound_of_decode? h

end Picture
end Bookpress
