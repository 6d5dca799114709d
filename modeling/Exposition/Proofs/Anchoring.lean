import Exposition.Proofs.Document
import Exposition.Proofs.Exclusion
import Exposition.Proofs.Pattern.Anchored

/-! # Anchored patterns

An exclude pattern is put between anchors, in a group of its own, as the text that it is. So it is
anchored if it ends neither that group before its own end nor after it. How much space there is for
an expression does not matter: what is said here holds within any budget.
-/

namespace Exposition

open Pattern

namespace FamilyFilter

@[simp] theorem toList_anchor (text : String) : (anchor text).toList = anchored text.toList := by
  simp [anchor, anchored, Cursor.behind, Cursor.beyond]

@[simp] theorem compileWithin_eq_ok_iff {fits : Expr → Bool} {text : String} {p : Pattern} :
    compileWithin fits text = .ok p ↔ Pattern.ofTextWithin fits (anchor text) = .ok p := by
  unfold compileWithin
  cases Pattern.ofTextWithin fits (anchor text) with
  | error e => simp
  | ok p' => simp

end FamilyFilter

theorem Pattern.ofTextWithin_eq_ok_iff {fits : Expr → Bool} {text : String} {p : Pattern} :
    Pattern.ofTextWithin fits text = .ok p ↔
      exprOfText text.toList = .ok p.expr ∧ fits p.expr = true ∧ p.text = text := by
  obtain ⟨text', e⟩ := p
  unfold Pattern.ofTextWithin
  cases exprOfText text.toList with
  | error fault => simp
  | ok e' => grind

/-- A pattern that can be put between anchors within a budget: its comments end inside of it, it
    does not close a group that it does not open, it leaves room for two more levels, and the budget
    makes no difference between the pattern alone and between anchors. -/
structure Anchorable (fits : Expr → Bool) (text : String) : Prop where
  closesComments : Cursor.CommentsClosed text.toList
  opensGroups : ∀ span, Tree.ofText text.toList ≠ Cursor.fail .groupUnopened span
  shallow : ∀ t, Tree.ofText text.toList = .ok t → t.checkDepth 2 = .ok ()
  room : ∀ e, exprOfText text.toList = .ok e → fits e.anchored = fits e

/-- What can be computed of a pattern to see that it can be put between anchors. -/
theorem Anchorable.of_checks {fits : Expr → Bool} {text : String}
    (closes : Cursor.CommentsClosed text.toList)
    (shallow : ((Tree.ofText text.toList).bind (·.checkDepth 2)).isOk)
    (room : ∃ e, exprOfText text.toList = .ok e ∧ fits e.anchored = fits e) :
    Anchorable fits text := by
  obtain ⟨_, checked⟩ := exists_eq_ok_of_isOk shallow
  obtain ⟨t, tree, checked⟩ := bind_eq_ok_iff.mp checked
  obtain ⟨e, meaning, room⟩ := room
  refine ⟨closes, fun span => by simp [tree, Cursor.fail], fun t' tree' => ?_, fun e' read => ?_⟩
  · obtain ⟨⟩ := tree.symm.trans tree'
    exact checked
  · obtain ⟨⟩ := meaning.symm.trans read
    exact room

namespace FamilyFilter

variable {fits : Expr → Bool} {text : String} {p : Pattern}

/-- What is compiled is a pattern on its own, and matches the names that it matches as a whole. -/
theorem exists_ofText_of_compile (h : compileWithin fits text = .ok p)
    (isAnchorable : Anchorable fits text) :
    ∃ q, Pattern.ofTextWithin fits text = .ok q ∧
      ∀ name, p.isMatch name = q.matchesWhole name := by
  obtain ⟨meaning, fitting, -⟩ :=
    Pattern.ofTextWithin_eq_ok_iff.mp (compileWithin_eq_ok_iff.mp h)
  rw [toList_anchor] at meaning
  rcases exprOfText_of_anchored meaning with ⟨span, early⟩ | ⟨e, alone, same⟩
  · exact absurd early (isAnchorable.opensGroups span)
  · rw [same, isAnchorable.room e alone] at fitting
    refine ⟨⟨text, e⟩, Pattern.ofTextWithin_eq_ok_iff.mpr ⟨alone, fitting, rfl⟩, fun name => ?_⟩
    rw [Pattern.isMatch, same, Expr.isMatch_anchored, Pattern.matchesWhole]

theorem exists_compile_of_ofText (h : Pattern.ofTextWithin fits text = .ok p)
    (isAnchorable : Anchorable fits text) : ∃ q, compileWithin fits text = .ok q := by
  obtain ⟨meaning, fitting, -⟩ := Pattern.ofTextWithin_eq_ok_iff.mp h
  refine ⟨⟨anchor text, p.expr.anchored⟩, compileWithin_eq_ok_iff.mpr
    (Pattern.ofTextWithin_eq_ok_iff.mpr ⟨?_, ?_, rfl⟩)⟩
  · rw [toList_anchor]
    exact exprOfText_anchored meaning isAnchorable.closesComments isAnchorable.shallow
  · rw [isAnchorable.room p.expr meaning, fitting]

end FamilyFilter

/-- Within any budget, of patterns that can be put between anchors a filter is made if and only if
    each is a pattern on its own, and it drops the families whose whole name any of them matches. -/
theorem excludes_iff_matchesWhole (fits : Expr → Bool) {texts : List String}
    (areAnchorable : ∀ text ∈ texts, Anchorable fits text) :
    ((∃ f, FamilyFilter.ofPatternsWithin fits texts = .ok f) ↔
      ∀ text ∈ texts, ∃ p, Pattern.ofTextWithin fits text = .ok p) ∧
    ∀ f, FamilyFilter.ofPatternsWithin fits texts = .ok f → ∀ name,
      f.excludes name = true ↔
        ∃ text ∈ texts, ∃ p, Pattern.ofTextWithin fits text = .ok p ∧
          p.matchesWhole name = true := by
  have alone {text} (inside : text ∈ texts) {p}
      (compiled : FamilyFilter.compileWithin fits text = .ok p) :=
    FamilyFilter.exists_ofText_of_compile compiled (areAnchorable text inside)
  refine ⟨⟨?_, fun isPattern => ?_⟩, fun f made name => ?_⟩
  · rintro ⟨f, made⟩ text inside
    have compiled := FamilyFilter.ofPatternsWithin_eq_ok_iff.mp made
    obtain ⟨p, -, compiled⟩ := exists_mem_right compiled inside
    obtain ⟨q, isPattern, -⟩ := alone inside compiled
    exact ⟨q, isPattern⟩
  · obtain ⟨ps, compiled⟩ := exists_forall₂ fun text inside =>
      let ⟨_, isPattern⟩ := isPattern text inside
      FamilyFilter.exists_compile_of_ofText isPattern (areAnchorable text inside)
    exact ⟨⟨ps⟩, FamilyFilter.ofPatternsWithin_eq_ok_iff.mpr compiled⟩
  · have compiled := FamilyFilter.ofPatternsWithin_eq_ok_iff.mp made
    rw [FamilyFilter.excludes, List.any_eq_true]
    constructor
    · rintro ⟨p, excluded, matched⟩
      obtain ⟨text, inside, compiled⟩ := exists_mem_left compiled excluded
      obtain ⟨q, isPattern, same⟩ := alone inside compiled
      exact ⟨text, inside, q, isPattern, (same name).symm.trans matched⟩
    · rintro ⟨text, inside, q, isPattern, matched⟩
      obtain ⟨p, excluded, compiled⟩ := exists_mem_right compiled inside
      obtain ⟨q', isPattern', same⟩ := alone inside compiled
      obtain ⟨⟩ := isPattern.symm.trans isPattern'
      exact ⟨p, excluded, (same name).trans matched⟩

/-- The name of a family has to be all of what an alternative matches. -/
theorem excludes_iff_matchesWhole_verbose :
    ∃ f, FamilyFilter.ofPatterns ["(?x) up | go_[a-z]* # runtime\n"] = .ok f ∧
      f.excludes "go_threads" = true ∧ f.excludes "uptime" = false := by
  have computed : (exprOfText "(?x) up | go_[a-z]* # runtime\n".toList).map (fun e =>
      (e.fits, e.anchored.fits, e.matchesWhole "go_threads", e.matchesWhole "uptime")) =
        .ok (true, true, true, false) := by
    decide +kernel
  obtain ⟨e, meaning, values⟩ := map_eq_ok_iff.mp computed
  obtain ⟨fitting, fitting', matched, unmatched⟩ :
      e.fits = true ∧ e.anchored.fits = true ∧ e.matchesWhole "go_threads" = true ∧
        e.matchesWhole "uptime" = false := by
    simpa only [Prod.mk.injEq] using values
  have isPattern : Pattern.ofTextWithin Expr.fits "(?x) up | go_[a-z]* # runtime\n" =
      .ok ⟨"(?x) up | go_[a-z]* # runtime\n", e⟩ :=
    Pattern.ofTextWithin_eq_ok_iff.mpr ⟨meaning, fitting, rfl⟩
  have isAnchorable : ∀ text ∈ ["(?x) up | go_[a-z]* # runtime\n"], Anchorable Expr.fits text :=
    List.forall_mem_singleton.mpr (.of_checks (by decide +kernel) (by decide +kernel)
      ⟨e, meaning, fitting'.trans fitting.symm⟩)
  obtain ⟨made, whole⟩ := excludes_iff_matchesWhole Expr.fits isAnchorable
  obtain ⟨f, made⟩ := made.mpr (List.forall_mem_singleton.mpr ⟨_, isPattern⟩)
  refine ⟨f, made, ?_, Bool.eq_false_iff.mpr fun dropped => ?_⟩
  · exact (whole f made _).mpr ⟨_, List.mem_singleton_self _, _, isPattern, matched⟩
  · obtain ⟨text, inside, q, isPattern', matched'⟩ := (whole f made _).mp dropped
    obtain rfl := List.mem_singleton.mp inside
    obtain ⟨⟩ := isPattern.symm.trans isPattern'
    exact absurd matched' (Bool.eq_false_iff.mp unmatched)

/-- A comment at the end of a pattern takes in what closes the group around it, and a parenthesis
    that the pattern does not open closes that group early. -/
theorem anchoring_inexact :
    (∃ p, Pattern.ofText "(?x)a # b" = .ok p ∧ p.matchesWhole "a" = true) ∧
    (∀ f, FamilyFilter.ofPatterns ["(?x)a # b"] ≠ .ok f) ∧
    (∀ p, Pattern.ofText "a)|(b" ≠ .ok p) ∧
    ∃ f, FamilyFilter.ofPatterns ["a)|(b"] = .ok f ∧ f.excludes "a_total" = true := by
  have matched : (Pattern.ofText "(?x)a # b").map (·.matchesWhole "a") = .ok true := by
    decide +kernel
  have refused : (FamilyFilter.ofPatterns ["(?x)a # b"]).isOk = false := by decide +kernel
  have noPattern : (Pattern.ofText "a)|(b").isOk = false := by decide +kernel
  have dropped : (FamilyFilter.ofPatterns ["a)|(b"]).map (·.excludes "a_total") = .ok true := by
    decide +kernel
  refine ⟨map_eq_ok_iff.mp matched, fun f made => ?_, fun p read => ?_, map_eq_ok_iff.mp dropped⟩
  · rw [made] at refused
    cases refused
  · rw [read] at noPattern
    cases noPattern

end Exposition
