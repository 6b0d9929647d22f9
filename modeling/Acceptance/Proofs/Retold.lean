import Mathlib.Data.List.Forall2
import Acceptance.Proofs.AnyOrder
import Acceptance.Proofs.ByteOrder

namespace Acceptance

open Text (Bytes)
open FileTree (Matched)

-- Results told twice. Two summaries may say the same about every case and differ in the time that
-- it took.

structure Summary.Retold (one other : Summary) : Prop where
  total : other.total = one.total
  passed : other.passed = one.passed
  compileFailed : other.compileFailed = one.compileFailed
  runtimeMismatch : other.runtimeMismatch = one.runtimeMismatch
  records : other.records.map (·.told) = one.records.map (·.told)

namespace Summary.Retold

variable {one other : Summary}

theorem refl (summary : Summary) : summary.Retold summary := ⟨rfl, rfl, rfl, rfl, rfl⟩

theorem add {record record' : Record} (retold : one.Retold other)
    (same : record'.told = record.told) : (one.add record).Retold (other.add record') := by
  obtain ⟨name, outcome⟩ : record'.name = record.name ∧ record'.outcome = record.outcome :=
    Prod.mk.inj same
  have records : (other.records ++ [record']).map (·.told) =
      (one.records ++ [record]).map (·.told) := by
    rw [List.map_append, List.map_append, retold.records, List.map_singleton, List.map_singleton,
      same]
  unfold Summary.add
  rw [name, outcome]
  -- The record counts under its outcome.
  cases record.outcome with
  | passed =>
      exact ⟨retold.total, congrArg (· + 1) retold.passed, retold.compileFailed,
        retold.runtimeMismatch, records⟩
  | compileFailed =>
      exact ⟨retold.total, retold.passed, congrArg (· ++ [record.name]) retold.compileFailed,
        retold.runtimeMismatch, records⟩
  | runtimeMismatch =>
      exact ⟨retold.total, retold.passed, retold.compileFailed,
        congrArg (· ++ [record.name]) retold.runtimeMismatch, records⟩

theorem shown (retold : one.Retold other) (shown : Presentation) (hint : Hint) :
    Report.shownSummary shown hint other = Report.shownSummary shown hint one := by
  have lines : Report.summaryLines shown.locale hint other =
      Report.summaryLines shown.locale hint one := by
    rw [Report.summaryLines, Report.summaryLines, retold.total, retold.passed,
      retold.compileFailed, retold.runtimeMismatch]
  have all : other.allPassed = one.allPassed := by
    rw [Summary.allPassed, Summary.allPassed, retold.total, retold.passed]
  unfold Report.shownSummary
  rw [lines, all]

end Summary.Retold

namespace FileTree

structure SameShape (left right : FileTree) : Prop where
  cwd : right.cwd = left.cwd
  shared : right.shared = left.shared
  entry : ∀ place, right.entry? place = left.entry? place ∨ ∃ old new mode,
    left.entry? place = some (.file old mode) ∧ right.entry? place = some (.file new mode)

namespace SameShape

variable {left right : FileTree} {place : Place} {path : String}

theorem isDirectoryAt (shape : SameShape left right) (place : Place) :
    right.isDirectoryAt place = left.isDirectoryAt place := by
  rcases shape.entry place with same | ⟨old, new, mode, before, after⟩
  · exact isDirectoryAt_congr same
  · simp [FileTree.isDirectoryAt, before, after]

theorem advance (shape : SameShape left right) (purpose : Purpose) (current : Place)
    (parts : List String) :
    right.advance purpose current parts = left.advance purpose current parts := by
  induction parts generalizing current with
  | nil => rfl
  | cons part rest ih =>
      simp only [FileTree.advance, shape.isDirectoryAt, ih]
      rcases shape.entry (part :: current) with same | ⟨old, new, mode, before, after⟩
      · rw [same]
      · rw [before, after]

theorem resolve (shape : SameShape left right) (purpose : Purpose) (links : Nat) (start : Place)
    (parts : List String) :
    right.resolve purpose links start parts = left.resolve purpose links start parts := by
  induction links generalizing start parts with
  | zero => rw [FileTree.resolve, FileTree.resolve, shape.advance]
  | succ links ih =>
      rw [FileTree.resolve, FileTree.resolve, shape.advance]
      cases left.advance purpose start parts with
      | arrived found => rfl
      | failed cause => rfl
      | detour directory target rest => exact ih _ _

theorem find (shape : SameShape left right) (purpose : Purpose) (path : String) :
    right.find purpose path = left.find purpose path := by
  rw [find_eq, find_eq, shape.cwd, shape.resolve]

theorem put (shape : SameShape left right) (place : Place) (old new : Bytes) (mode : Nat) :
    SameShape (left.put place (.file old mode)) (right.put place (.file new mode)) := by
  refine ⟨shape.cwd, shape.shared, fun spot => ?_⟩
  rw [entry?_put, entry?_put]
  split
  · exact .inr ⟨old, new, mode, rfl, rfl⟩
  · exact shape.entry spot

theorem store (shape : SameShape left right) (place : Place) (old new : Bytes) (mode : Nat) :
    SameShape (left.store place old mode) (right.store place new mode) := by
  refine ⟨by simp [shape.cwd], by simp [shape.shared], fun spot => ?_⟩
  rw [entry?_store, entry?_store, twins, twins, shape.shared]
  split
  · exact .inr ⟨old, new, mode, rfl, rfl⟩
  · exact shape.entry spot

theorem writeAt (shape : SameShape left right) (place : Place) (offset : Nat) (old new : Bytes) :
    SameShape (left.writeAt place offset old) (right.writeAt place offset new) := by
  unfold FileTree.writeAt
  rcases shape.entry place with same | ⟨_, _, mode, before, after⟩
  · rw [same]
    split
    · exact shape.store place _ _ _
    · exact shape
  · rw [before, after]
    exact shape.store place _ _ mode

theorem create (shape : SameShape left right) (path : String) :
    Matched (fun one other => other.1 = one.1 ∧ SameShape one.2 other.2)
      (left.create path) (right.create path) := by
  rw [create_eq, create_eq, shape.find]
  cases left.find .newFile path with
  | error cause => exact .failed cause
  | ok found =>
      cases found with
      | vacant directory name slash => exact .done ⟨rfl, shape.put _ _ _ _⟩
      | entry place =>
          simp only
          rcases shape.entry place with same | ⟨_, _, mode, before, after⟩
          · rw [same]
            split
            · exact .done ⟨rfl, shape.store _ _ _ _⟩
            · exact .failed _
            · exact .done ⟨rfl, shape⟩
            · exact .failed _
          · rw [before, after]
            exact .done ⟨rfl, shape.store _ _ _ _⟩

theorem isFull (shape : SameShape left right) (place : Place) :
    right.isFull place = left.isFull place := by
  unfold FileTree.isFull
  rcases shape.entry place with same | ⟨_, _, mode, before, after⟩
  · rw [same]
  · simp [before, after]

theorem write {old new : Bytes} (shape : SameShape left right)
    (filled : new.isEmpty = old.isEmpty) (path : String) :
    Matched SameShape (left.write path old) (right.write path new) := by
  have creation := shape.create path
  unfold FileTree.write
  cases made : left.create path with
  | error cause =>
      rw [made] at creation
      rw [creation.of_failed]
      exact .failed cause
  | ok one =>
      obtain ⟨place, opened⟩ := one
      rw [made] at creation
      obtain ⟨⟨place', opened'⟩, made', same, still⟩ := creation.of_done
      obtain rfl : place' = place := same
      rw [made']
      simp only [bind, Except.bind, pure, Except.pure, SameShape.isFull still, filled]
      split
      · exact .failed _
      · exact .done (SameShape.writeAt still _ _ _ _)

theorem streamAt (shape : SameShape left right) (path : String) :
    Session.streamAt? right path = Session.streamAt? left path := by
  unfold Session.streamAt? status locate
  rw [shape.find]
  cases left.find .target path with
  | error cause => rfl
  | ok found =>
      cases found with
      | vacant directory name slash => rfl
      | entry place =>
          simp only [bind, Except.bind, pure, Except.pure]
          rcases shape.entry place with same | ⟨_, _, mode, before, after⟩
          · rw [same]
          · rw [before, after]

end SameShape
end FileTree

inductive Event.Retold (one other : Summary) : Event → Event → Prop where
  | same (event : Event) : Retold one other event event
  | page (stream : Stream) (locale : Locale) (hint : Hint) :
      Retold one other (.wrote stream (Report.html locale hint one))
        (.wrote stream (Report.html locale hint other))
  | document (stream : Stream) :
      Retold one other (.wrote stream (Report.json one)) (.wrote stream (Report.json other))

structure Session.Retold (one other : Summary) (left right : Session) : Prop where
  tree : left.tree.SameShape right.tree
  events : List.Forall₂ (Event.Retold one other) left.events right.events

namespace Session.Retold

variable {one other : Summary} {left right : Session}

theorem emit {event event' : Event} (retold : Session.Retold one other left right)
    (same : Event.Retold one other event event') :
    Session.Retold one other (left.emit event) (right.emit event') :=
  ⟨retold.tree, List.rel_append retold.events (.cons same .nil)⟩

theorem sayAll (retold : Session.Retold one other left right) (blocks : List String) :
    Session.Retold one other (left.sayAll blocks) (right.sayAll blocks) := by
  induction blocks generalizing left right with
  | nil => exact retold
  | cons block blocks ih => exact ih (retold.emit (.same _))

theorem write {content content' path : String} (retold : Session.Retold one other left right)
    (told : ∀ stream, Event.Retold one other (.wrote stream content) (.wrote stream content'))
    (filled : (Text.utf8 content').isEmpty = (Text.utf8 content).isEmpty) :
    Matched (Session.Retold one other) (left.write path content) (right.write path content') := by
  have writing := retold.tree.write filled path
  unfold Session.write
  cases written : left.tree.write path (Text.utf8 content) with
  | error cause =>
      rw [written] at writing
      rw [writing.of_failed]
      exact .failed cause
  | ok tree =>
      rw [written] at writing
      obtain ⟨tree', written', shape⟩ := writing.of_done
      rw [written']
      simp only [shape.streamAt]
      split
      · exact .done ⟨shape, List.rel_append retold.events (.cons (told _) .nil)⟩
      · exact .done ⟨shape, retold.events⟩

end Session.Retold

theorem Text.utf8_filled {text : String} (filled : text ≠ "") : (utf8 text).isEmpty = false := by
  have chars : text.toList ≠ [] := fun empty => filled (String.toList_eq_nil_iff.mp empty)
  obtain ⟨c, rest, form⟩ := List.exists_cons_of_ne_nil chars
  obtain ⟨byte, more, encoded⟩ := List.exists_cons_of_ne_nil (encodeChar_ne_nil c)
  rw [utf8, form, List.flatMap_cons, encoded]
  rfl

namespace Report

theorem html_filled (locale : Locale) (hint : Hint) (summary : Summary) :
    html locale hint summary ≠ "" := by
  intro empty
  have chars := congrArg String.toList empty
  rw [html, String.toList_append] at chars
  exact absurd (List.append_eq_nil_iff.mp chars).2 (by decide)

theorem json_filled (summary : Summary) : json summary ≠ "" := by
  intro empty
  have chars := congrArg String.toList empty
  simp [json, Json.render, summaryJson, Json.write] at chars

end Report

namespace Run

variable {one other : Summary} {left right : Session} {shown : Presentation}

theorem keepReport_retold {kind path content content' : String}
    (retold : Session.Retold one other left right)
    (told : ∀ stream, Event.Retold one other (.wrote stream content) (.wrote stream content'))
    (filled : content ≠ "") (filled' : content' ≠ "") :
    Session.Retold one other (keepReport shown left (saveReport kind path content left))
      (keepReport shown right (saveReport kind path content' right)) := by
  have writing : Matched (Session.Retold one other) (left.write path content)
      (right.write path content') :=
    retold.write told ((Text.utf8_filled filled').trans (Text.utf8_filled filled).symm)
  unfold saveReport
  cases written : left.write path content with
  | error cause =>
      rw [written] at writing
      rw [writing.of_failed]
      exact retold.emit (.same _)
  | ok session =>
      rw [written] at writing
      obtain ⟨session', written', still⟩ := writing.of_done
      rw [written']
      exact still

theorem conclude_retold {options : RunOptions} {config : Config} (same : one.Retold other)
    (retold : Session.Retold one other left right) :
    Session.Retold one other (conclude shown options config one left)
      (conclude shown options config other right) := by
  have told := retold.sayAll (Report.shownSummary shown (Hint.ofConfig config) one)
  unfold conclude
  dsimp only
  rw [same.shown]
  generalize left.sayAll _ = left, right.sayAll _ = right at told
  have page : Session.Retold one other
      (writeHtml shown (Hint.ofConfig config) one left options.html)
      (writeHtml shown (Hint.ofConfig config) other right options.html) := by
    cases options.html with
    | none => exact told
    | some path =>
        exact keepReport_retold (told.emit (.same _)) (fun stream => .page stream _ _)
          (Report.html_filled _ _ _) (Report.html_filled _ _ _)
  cases options.json with
  | none => exact page
  | some path =>
      exact keepReport_retold page (fun stream => .document stream) (Report.json_filled _)
        (Report.json_filled _)

end Run
end Acceptance
