import Exposition.Proofs.Json.Layouts
import Exposition.Proofs.SortedMap
import Exposition.Report.Basic

/-! # What the JSON of a difference tells

All that is known of a difference is in its JSON: names, label values and help texts as they are,
and an absent help as `null`, which no text is written as. So a difference can be told from either
layout, and the layouts of a report tell the same.
-/

namespace Exposition

namespace Json

/-- Distinct things are written as distinct values, and none of these has a number in it. -/
structure Lossless {α : Type} (toJson : α → Json) : Prop where
  injective : Function.Injective toJson
  textual : ∀ a, (toJson a).Textual

namespace Lossless

variable {α : Type} {toJson : α → Json} {a b : α}

theorem compact_inj (h : Lossless toJson) (same : (toJson a).compact = (toJson b).compact) :
    a = b :=
  h.injective ((h.textual a).compact_inj (h.textual b) same)

theorem pretty_inj (h : Lossless toJson) (same : (toJson a).pretty = (toJson b).pretty) :
    a = b := by
  apply h.compact_inj
  rw [← dropSpace_pretty, ← dropSpace_pretty, same]

theorem string : Lossless string := ⟨fun _ _ => string.inj, .string⟩

end Lossless

end Json

open Json (Lossless Textual)

theorem SortedMap.lossless_toJson {ν : Type} {value : ν → Json} (h : Lossless value) :
    Lossless (SortedMap.toJson value) where
  injective := by
    intro m n same
    have inj : Function.Injective fun entry : String × ν => (entry.1, value entry.2) := by
      intro entry entry' same
      obtain ⟨names, values⟩ := Prod.mk.inj same
      exact Prod.ext names (h.injective values)
    exact SortedMap.ext_entries (List.map_injective_iff.mpr inj (Json.object.inj same))
  textual m := by
    refine .object fun member inside => ?_
    obtain ⟨entry, -, rfl⟩ := List.mem_map.mp inside
    exact h.textual entry.2

theorem SortedSet.lossless_toJson {α : Type} [Ord α] {element : α → Json} (h : Lossless element) :
    Lossless (SortedSet.toJson element) where
  injective := by
    intro s t same
    exact ext_toList (List.map_injective_iff.mpr h.injective (Json.array.inj same))
  textual s := by
    refine .array fun item inside => ?_
    obtain ⟨a, -, rfl⟩ := List.mem_map.mp inside
    exact h.textual a

theorem Labels.lossless_toJson : Lossless Labels.toJson := SortedMap.lossless_toJson .string

theorem Identity.lossless_toJson : Lossless Identity.toJson where
  injective := by
    intro i j same
    simp only [toJson, members, Json.object.injEq, List.cons.injEq, Prod.mk.injEq, true_and,
      and_true, Json.string.injEq] at same
    obtain ⟨names, labels⟩ := same
    cases i
    cases j
    cases names
    cases Labels.lossless_toJson.injective labels
    rfl
  textual i := by
    refine .object (List.forall_mem_cons.mpr ⟨.string _, List.forall_mem_singleton.mpr ?_⟩)
    exact Labels.lossless_toJson.textual i.labels

theorem MetricType.lossless_toJson : Lossless MetricType.toJson where
  injective := by
    intro t u same
    have known := ofKeyword?_keyword t
    rw [Json.string.inj same, ofKeyword?_keyword] at known
    exact (Option.some.inj known).symm
  textual t := .string t.keyword

/-- No text is written like the help that is missing. -/
theorem lossless_help : Lossless fun help : Option String => help.elim .null Json.string where
  injective := by
    intro help help' same
    cases help with
    | none =>
        cases help' with
        | none => rfl
        | some text => cases same
    | some text =>
        cases help' with
        | none => cases same
        | some text' => rw [Json.string.inj same]
  textual help := by
    cases help with
    | none => exact .null
    | some text => exact .string text

theorem Metadata.lossless_toJson : Lossless Metadata.toJson where
  injective := by
    intro m n same
    simp only [toJson, Json.object.injEq, List.cons.injEq, Prod.mk.injEq, true_and,
      and_true] at same
    obtain ⟨types, helps⟩ := same
    cases m
    cases n
    cases MetricType.lossless_toJson.injective types
    cases lossless_help.injective helps
    rfl
  textual m := by
    refine .object (List.forall_mem_cons.mpr ⟨?_, List.forall_mem_singleton.mpr ?_⟩)
    · exact MetricType.lossless_toJson.textual m.type
    · exact lossless_help.textual m.help

theorem MetadataChange.lossless_toJson : Lossless MetadataChange.toJson where
  injective := by
    intro c d same
    simp only [toJson, Json.object.injEq, List.cons.injEq, Prod.mk.injEq, true_and,
      and_true] at same
    obtain ⟨befores, afters⟩ := same
    cases c
    cases d
    cases Metadata.lossless_toJson.injective befores
    cases Metadata.lossless_toJson.injective afters
    rfl
  textual c := by
    refine .object (List.forall_mem_cons.mpr ⟨?_, List.forall_mem_singleton.mpr ?_⟩)
    · exact Metadata.lossless_toJson.textual c.before
    · exact Metadata.lossless_toJson.textual c.after

theorem Difference.lossless_toJson : Lossless Difference.toJson := by
  have families : Lossless (SortedSet.toJson Json.string) := SortedSet.lossless_toJson .string
  have samples : Lossless (SortedMap.toJson (SortedSet.toJson Identity.toJson)) :=
    SortedMap.lossless_toJson (SortedSet.lossless_toJson Identity.lossless_toJson)
  have changes : Lossless (SortedMap.toJson MetadataChange.toJson) :=
    SortedMap.lossless_toJson MetadataChange.lossless_toJson
  constructor
  · intro d e same
    simp only [toJson, Json.object.injEq, List.cons.injEq, Prod.mk.injEq, true_and,
      and_true] at same
    obtain ⟨added, removed, addedSamples, removedSamples, metadata⟩ := same
    cases d
    cases e
    cases families.injective added
    cases families.injective removed
    cases samples.injective addedSamples
    cases samples.injective removedSamples
    cases changes.injective metadata
    rfl
  · intro d
    refine .object ?_
    simp only [List.forall_mem_cons]
    exact ⟨families.textual _, families.textual _, samples.textual _, samples.textual _,
      changes.textual _, List.forall_mem_nil _⟩

/-- Two differences are written alike only if they are the same, and what is written on many lines
    is what is written on one but for the white space outside of strings. -/
theorem json_report_lossless :
    (∀ (d e : Difference) (pretty : Bool),
      (Report.difference d).render (.json pretty) = (Report.difference e).render (.json pretty) ↔
        d = e) ∧
      ∀ report : Report, Json.dropSpace .outside (report.render (.json true)).toList =
        (report.render (.json false)).toList := by
  refine ⟨fun d e pretty => ⟨fun same => ?_, fun same => by rw [same]⟩, fun report => ?_⟩
  · cases pretty with
    | true => exact Difference.lossless_toJson.pretty_inj (String.ofList_injective same)
    | false => exact Difference.lossless_toJson.compact_inj (String.ofList_injective same)
  · rw [Report.render, Report.render, String.toList_ofList, String.toList_ofList]
    exact Json.dropSpace_pretty report.toJson

end Exposition
