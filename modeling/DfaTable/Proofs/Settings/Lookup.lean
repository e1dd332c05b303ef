import DfaTable.Settings
import Mathlib.Data.List.Nodup

/-!
# DfaTable.Proofs.Settings.Lookup

What settings are taken from: the values under the known keys. The order of the keys and the other
keys do not matter.

* `get?_eq_some_iff`: in a mapping the value under a key is found wherever it stands.
* `section?_bind_congr`: a section matters as far as its known keys go.
* `ofValue_congr`: mappings that are alike under the known keys hold the same settings.
-/

namespace DfaTable

open Text

namespace Settings

/-- The texts among the keys. A mapping has none of them twice. -/
def textKeys (entries : List (Value × Value)) : List Text :=
  entries.filterMap fun
    | (.text k, _) => some k
    | _ => none

/-- What is under a name in one mapping is related to what is under it in the other. -/
def AlikeAt (R : Value → Value → Prop) (name : String) (es fs : List (Value × Value)) : Prop :=
  (∀ v, (.text name.toList, v) ∈ es → ∃ w, (.text name.toList, w) ∈ fs ∧ R v w) ∧
    ∀ w, (.text name.toList, w) ∈ fs → ∃ v, (.text name.toList, v) ∈ es ∧ R v w

/-- Sections that hold the same under some names. -/
inductive AlikeSection (names : List String) : Value → Value → Prop where
  | same (v : Value) : AlikeSection names v v
  | map {es fs : List (Value × Value)} : (textKeys es).Nodup → (textKeys fs).Nodup →
      (∀ name ∈ names, AlikeAt Eq name es fs) → AlikeSection names (.map es) (.map fs)

/-- Mappings that hold the same settings, in any order and with any other keys. -/
structure Alike (es fs : List (Value × Value)) : Prop where
  nodup_left : (textKeys es).Nodup
  nodup_right : (textKeys fs).Nodup
  exitCode : AlikeAt Eq "usage_exit_code" es fs
  logging : AlikeAt (AlikeSection ["level", "format"]) "logging" es fs
  output : AlikeAt (AlikeSection ["atomic", "existing_output", "encoding"]) "output" es fs

variable {es fs : List (Value × Value)} {name : String} {names : List String} {key : Text}
  {v : Value}

theorem mem_textKeys : key ∈ textKeys es ↔ ∃ v, (.text key, v) ∈ es := by
  unfold textKeys
  rw [List.mem_filterMap]
  constructor
  · rintro ⟨⟨k, v⟩, hmem, hk⟩
    cases k with
    | text k =>
      cases hk
      exact ⟨v, hmem⟩
    | _ => cases hk
  · rintro ⟨v, hmem⟩
    exact ⟨_, hmem, rfl⟩

theorem get?_eq_some_iff (h : (textKeys es).Nodup) :
    Value.get? key es = some v ↔ (.text key, v) ∈ es := by
  induction es with
  | nil => exact iff_of_false nofun List.not_mem_nil
  | cons e es ih =>
    obtain ⟨k, u⟩ := e
    rw [List.mem_cons, Prod.mk.injEq]
    cases k with
    | text k =>
      obtain ⟨hk, hes⟩ := List.nodup_cons.1 (show (k :: textKeys es).Nodup from h)
      rw [Value.get?]
      split
      · next heq =>
        subst heq
        -- The key is not in the rest, so the rest does not have the value under it either.
        have hrest : (Value.text k, v) ∉ es := fun hmem => hk (mem_textKeys.2 ⟨v, hmem⟩)
        simp [hrest, eq_comm]
      · next hne =>
        rw [ih hes]
        simp [Ne.symm hne]
    | _ =>
      have hes : (textKeys es).Nodup := h
      simp [Value.get?, ih hes]

/-- What is found under a name in both mappings, or in none of them. -/
theorem rel_get? {R : Value → Value → Prop} (hes : (textKeys es).Nodup)
    (hfs : (textKeys fs).Nodup) (h : AlikeAt R name es fs) :
    Option.Rel R (Value.get? name.toList es) (Value.get? name.toList fs) := by
  obtain ⟨hleft, hright⟩ := h
  cases he : Value.get? name.toList es with
  | some v =>
    obtain ⟨w, hw, hr⟩ := hleft v ((get?_eq_some_iff hes).1 he)
    rw [(get?_eq_some_iff hfs).2 hw]
    exact .some hr
  | none =>
    cases hf : Value.get? name.toList fs with
    | none => exact .none
    | some w =>
      obtain ⟨v, hv, -⟩ := hright w ((get?_eq_some_iff hfs).1 hf)
      cases he.symm.trans ((get?_eq_some_iff hes).2 hv)

theorem part_congr (hes : (textKeys es).Nodup) (hfs : (textKeys fs).Nodup)
    (h : AlikeAt Eq name es fs) (usual : Value) : part name usual es = part name usual fs := by
  have hr := rel_get? hes hfs h
  unfold part
  generalize Value.get? name.toList es = a at hr ⊢
  generalize Value.get? name.toList fs = b at hr ⊢
  cases hr with
  | none => rfl
  | some hr => rw [hr]

/-! ## Sections -/

theorem section?_of_map (h : Value.get? name.toList es = some (.map fs)) :
    (section? name es) = return fs := by
  unfold section? part
  rw [h]
  cases fs <;> rfl

theorem section?_of_get? (h : Value.get? name.toList es = Value.get? name.toList fs) :
    (section? name es) = section? name fs := by
  unfold section? part
  rw [h]

/-- Work with a section looks at its known names only. -/
theorem section?_bind_congr {α : Type} {k l : List (Value × Value) → Check α}
    (h : Option.Rel (AlikeSection names) (Value.get? name.toList es) (Value.get? name.toList fs))
    (hkl : ∀ a b, (∀ n ∈ names, ∀ usual, part n usual a = part n usual b) → k a = l b) :
    (section? name es >>= k) = section? name fs >>= l := by
  have hsame : ∀ a, k a = l a := fun a => hkl a a fun _ _ _ => rfl
  generalize he : Value.get? name.toList es = a at h
  generalize hf : Value.get? name.toList fs = b at h
  cases h with
  | none =>
    rw [section?_of_get? (he.trans hf.symm)]
    exact bind_congr hsame
  | some hr =>
    cases hr with
    | same =>
      rw [section?_of_get? (he.trans hf.symm)]
      exact bind_congr hsame
    | map ha hb hab =>
      rw [section?_of_map he, section?_of_map hf, pure_bind, pure_bind]
      exact hkl _ _ fun n hn => part_congr ha hb (hab n hn)

theorem ofValue_congr (h : Alike es fs) :
    Draft.ofValue (.map es) = Draft.ofValue (.map fs) := by
  have hlogging := rel_get? h.nodup_left h.nodup_right h.logging
  have houtput := rel_get? h.nodup_left h.nodup_right h.output
  have hcode := part_congr h.nodup_left h.nodup_right h.exitCode (.int 0)
  unfold Draft.ofValue
  simp only [partsOf, pure_bind]
  refine section?_bind_congr hlogging fun a b hab => ?_
  rw [hab "level" (by simp), hab "format" (by simp)]
  refine bind_congr fun level => bind_congr fun format => ?_
  refine section?_bind_congr houtput fun c d hcd => ?_
  rw [hcd "atomic" (by simp), hcd "existing_output" (by simp), hcd "encoding" (by simp), hcode]

end Settings
end DfaTable
