/-
# Intervals within the bounds

A configuration that passes its check has its bounds in order, the lower one being at least one
millisecond, and its first interval lies between them.  Whatever interval is asked for later is
moved between the same bounds, so that no interval in force ever leaves them.
-/
import LinkWatch.Config.Basic
import Mathlib.Tactic.Common

namespace LinkWatch.HeartbeatConfig

variable {c : HeartbeatConfig} {n : UInt64}

/-- An interval lies between the bounds. -/
def InBounds (c : HeartbeatConfig) (n : UInt64) : Prop :=
  c.minIntervalMs ≤ n ∧ n ≤ c.maxIntervalMs

/-- What the check of a configuration establishes. -/
structure Valid (c : HeartbeatConfig) : Prop where
  one_le_min : 1 ≤ c.minIntervalMs
  min_le_max : c.minIntervalMs ≤ c.maxIntervalMs
  first : c.InBounds c.intervalMs

lemma toNat_clamp (c : HeartbeatConfig) (n : UInt64) :
    (c.clamp n).toNat =
      max 1 (min c.maxIntervalMs.toNat (max c.minIntervalMs.toNat n.toNat)) := by
  simp [clamp, UInt64.toNat_max, UInt64.toNat_min]

/-- With bounds in order, an interval is moved between them. -/
lemma inBounds_clamp (hone : 1 ≤ c.minIntervalMs) (hle : c.minIntervalMs ≤ c.maxIntervalMs)
    (n : UInt64) : c.InBounds (c.clamp n) := by
  have h1 := UInt64.le_iff_toNat_le.mp hone
  have h2 := UInt64.le_iff_toNat_le.mp hle
  rw [UInt64.toNat_one] at h1
  constructor <;> rw [UInt64.le_iff_toNat_le, toNat_clamp] <;> omega

/-- An interval between the bounds is left where it is. -/
lemma clamp_of_inBounds (hn : c.InBounds n) (h : c.Valid) : c.clamp n = n := by
  have hmin := UInt64.le_iff_toNat_le.mp hn.1
  have hmax := UInt64.le_iff_toNat_le.mp hn.2
  have hone := UInt64.le_iff_toNat_le.mp h.one_le_min
  rw [UInt64.toNat_one] at hone
  rw [← UInt64.toNat_inj, toNat_clamp]
  omega

/-- An interval between the bounds is at least one millisecond. -/
lemma InBounds.one_le (hn : c.InBounds n) (h : c.Valid) : 1 ≤ n.toNat :=
  UInt64.le_iff_toNat_le.mp (UInt64.le_trans h.one_le_min hn.1)

/-- A configuration that passes its check is valid. -/
lemma valid_of_validate (h : c.validate = .ok ()) : c.Valid := by
  rw [validate] at h
  split at h
  · cases h
  split at h
  · cases h
  next hmin =>
  split at h
  · cases h
  next horder =>
  split at h
  · cases h
  next hclamp =>
  have hle : c.minIntervalMs ≤ c.maxIntervalMs := UInt64.not_lt.mp horder
  have hone : 1 ≤ c.minIntervalMs := by
    have h0 : c.minIntervalMs.toNat ≠ 0 := fun h0 => hmin (UInt64.toNat_inj.mp h0)
    rw [UInt64.le_iff_toNat_le, UInt64.toNat_one]
    omega
  exact ⟨hone, hle, not_not.mp hclamp ▸ inBounds_clamp hone hle c.intervalMs⟩

/-- The check of a configuration passes just if it is valid. -/
lemma validate_eq_ok_iff : c.validate = .ok () ↔ c.Valid := by
  refine ⟨valid_of_validate, fun h => ?_⟩
  have hmin := UInt64.le_iff_toNat_le.mp h.one_le_min
  have hfirst := h.first.one_le h
  rw [UInt64.toNat_one] at hmin
  rw [validate, if_neg, if_neg, if_neg (UInt64.not_lt.mpr h.min_le_max),
    if_neg (not_not.mpr (clamp_of_inBounds h.first h))]
  · intro h0
    rw [h0, UInt64.toNat_zero] at hmin
    omega
  · intro h0
    rw [h0, UInt64.toNat_zero] at hfirst
    omega

end LinkWatch.HeartbeatConfig
