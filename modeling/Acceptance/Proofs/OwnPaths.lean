import Acceptance.Command.Template
import Acceptance.Discovery
import Acceptance.Proofs.OnePass
import Acceptance.Proofs.ShownNames

namespace Acceptance

-- The paths of a discovered case and the arguments that name them. The entry of a case and the
-- settings determine all its paths.

theorem FileTree.isDirectory_empty (tree : FileTree) : tree.isDirectory "" = false := rfl

theorem Path.slash_mem_join {base : String} (path : String) (filled : base ≠ "") :
    '/' ∈ (join base path).toList := by
  have filled' : base.isEmpty = false := by simpa using filled
  unfold join
  rw [filled', Bool.or_false]
  split
  · rename_i absolute
    exact List.mem_of_head? (of_decide_eq_true absolute)
  split
  · rename_i ended
    rw [String.toList_append]
    exact List.mem_append_left _ (List.mem_of_getLast? ended)
  · simp

namespace Case

variable {tree : FileTree} {root name : String} {layout : Layout} {cases : List Case} {case : Case}

theorem ofEntry?_eq_some (found : Case.ofEntry? tree root layout name = some case) :
    case = ofDirectory (Text.shown name) (Path.join root name) layout := by
  simp only [Case.ofEntry?, Option.ite_none_right_eq_some, Option.some.injEq] at found
  exact found.2.symm

theorem discover_ok (found : discover tree root layout = .ok cases) :
    tree.isDirectory root ∧ ∃ names, tree.list root = .ok names ∧
      cases = names.filterMap (Case.ofEntry? tree root layout) := by
  rw [discover_eq] at found
  split at found
  · cases found
  · rename_i inside
    cases listed : tree.list root with
    | error cause =>
        rw [listed] at found
        cases found
    | ok names =>
        rw [listed] at found
        exact ⟨by simpa using inside, names, rfl, (Except.ok.inj found).symm⟩

theorem discover_root (found : discover tree root layout = .ok cases) : root ≠ "" := by
  rintro rfl
  have inside := (discover_ok found).1
  rw [tree.isDirectory_empty] at inside
  cases inside

theorem mem_discover (found : discover tree root layout = .ok cases) (member : case ∈ cases) :
    ∃ name, case = ofDirectory (Text.shown name) (Path.join root name) layout := by
  obtain ⟨_, names, _, rfl⟩ := discover_ok found
  obtain ⟨name, _, made⟩ := List.mem_filterMap.mp member
  exact ⟨name, ofEntry?_eq_some made⟩

theorem value_slash (found : discover tree root layout = .ok cases) (member : case ∈ cases)
    {placeholder : Placeholder} (path : placeholder ≠ .case) :
    '/' ∈ (placeholder.value case).toList := by
  obtain ⟨name, form⟩ := mem_discover found member
  have inRoot := Path.slash_mem_join name (discover_root found)
  have filled : Path.join root name ≠ "" := by
    intro empty
    rw [empty] at inRoot
    cases inRoot
  rw [form]
  cases placeholder with
  | case => exact absurd rfl path
  | dir => exact (Text.mem_shown (by decide)).mpr inRoot
  | spec | input | expected | program | actual | diagnostics =>
      exact (Text.mem_shown (by decide)).mpr (Path.slash_mem_join _ filled)

end Case

namespace Text

variable {key value text : List Char} {mark : Char}

theorem count_replaceAll (filled : key ≠ []) (bare : mark ∉ key) (value text : List Char) :
    text.count mark ≤ (replaceAll key value text).count mark ∧
      (mark ∈ value → key <:+: text →
        text.count mark < (replaceAll key value text).count mark) := by
  have filled' : ∀ binding ∈ [(key, value)], binding.1 ≠ [] := by simpa using filled
  have unmarked : key.count mark = 0 := List.count_eq_zero.mpr bare
  induction text using Bindings.pass_induction filled' with
  | nil =>
      refine ⟨Nat.zero_le _, fun _ inside => ?_⟩
      exact absurd (List.infix_nil.mp inside) filled
  | found binding rest found ih =>
      obtain rfl := List.mem_singleton.mp (Bindings.leading?_some found).1
      rw [replaceAll_front _ filled, List.count_append, List.count_append, unmarked]
      refine ⟨by omega, fun marked _ => ?_⟩
      have one := List.count_pos_iff.mpr marked
      omega
  | other c rest absent ih =>
      have nowhere := Bindings.leading?_eq_none.mp absent _ (List.mem_singleton_self _)
      rw [replaceAll_cons, if_neg nowhere, List.count_cons, List.count_cons]
      refine ⟨Nat.add_le_add_right ih.1 _, fun marked inside => ?_⟩
      rcases List.infix_cons_iff.mp inside with front | later
      · exact absurd front nowhere
      · exact Nat.add_lt_add_right (ih.2 marked later) _

end Text

namespace Bindings

def Marking (mark : Char) (bindings : Bindings) : Prop :=
  ∀ binding ∈ bindings, binding.1 ≠ [] ∧ mark ∉ binding.1 ∧ mark ∈ binding.2

variable {mark : Char} {bindings : Bindings} {text : List Char}

theorem Marking.count_apply (marking : Marking mark bindings) (text : List Char) :
    text.count mark ≤ (bindings.apply text).count mark := by
  induction bindings generalizing text with
  | nil => exact Nat.le_refl _
  | cons binding bindings ih =>
      obtain ⟨filled, bare, _⟩ := marking binding List.mem_cons_self
      have later : Marking mark bindings :=
        fun binding member => marking binding (List.mem_cons_of_mem _ member)
      rw [apply_cons]
      exact Nat.le_trans (Text.count_replaceAll filled bare _ _).1 (ih later _)

theorem Marking.apply_eq_self (marking : Marking mark bindings) :
    bindings.apply text = text ↔ ∀ binding ∈ bindings, ¬binding.1 <:+: text := by
  refine ⟨?_, apply_of_not_infix⟩
  induction bindings with
  | nil => exact fun _ _ member => absurd member List.not_mem_nil
  | cons binding bindings ih =>
      obtain ⟨filled, bare, marked⟩ := marking binding List.mem_cons_self
      have later : Marking mark bindings :=
        fun binding member => marking binding (List.mem_cons_of_mem _ member)
      intro kept
      rw [apply_cons] at kept
      -- An occurrence would add a mark that the later replacements do not take away.
      have absent : ¬binding.1 <:+: text := by
        intro inside
        have more := (Text.count_replaceAll filled bare binding.2 text).2 marked inside
        have still := later.count_apply (Text.replaceAll binding.1 binding.2 text)
        rw [kept] at still
        omega
      rw [Text.replaceAll_of_not_infix _ absent] at kept
      exact List.forall_mem_cons.mpr ⟨absent, ih later kept⟩

end Bindings

namespace Placeholder

theorem slash_not_mem_key (placeholder : Placeholder) : '/' ∉ placeholder.key.toList := by
  cases placeholder <;> decide

theorem path_of_later {placeholder other : Placeholder} (member : other ∈ placeholder.later) :
    other ≠ .case := by
  have first : .case ∉ placeholder.later := by cases placeholder <;> decide
  rintro rfl
  exact first member

end Placeholder

variable {tree : FileTree} {root : String} {layout : Layout} {cases : List Case} {case : Case}

theorem Bindings.marking_later (found : discover tree root layout = .ok cases)
    (member : case ∈ cases) (placeholder : Placeholder) :
    Marking '/' (ofPlaceholders case placeholder.later) := by
  intro binding inside
  obtain ⟨other, later, rfl⟩ := List.mem_map.mp inside
  exact ⟨List.ne_nil_of_mem other.brace_mem_key, other.slash_not_mem_key,
    Case.value_slash found member (Placeholder.path_of_later later)⟩

-- The field of a case that a placeholder stands for, as a name.
def Placeholder.field (case : Case) : Placeholder → String
  | .case => Text.ofText case.name
  | .dir => case.dir
  | .spec => case.specInput
  | .input => case.input
  | .expected => case.expected
  | .program => case.program
  | .actual => case.actualOutput
  | .diagnostics => case.actualDiagnostics

theorem Placeholder.value_eq (case : Case) (placeholder : Placeholder) :
    placeholder.value case = Text.shown (placeholder.field case) := by
  cases placeholder with
  | case => exact (Text.shown_ofText case.name).symm
  | _ => rfl

namespace Command.Template

-- An argument is handed over as a text. It is the path itself if the path is a text and holds no
-- placeholder that is replaced later.
theorem argument_own_path_iff (found : discover tree root layout = .ok cases)
    (member : case ∈ cases) (template : Template) (position : Nat) (placeholder : Placeholder)
    (single : template.arguments[position]? = some placeholder.key) :
    (template.fill (.ofCase case))[position]? = some
      ((Bindings.ofPlaceholders case placeholder.later).substitute (placeholder.value case)) ∧
    ((template.fill (.ofCase case))[position]? = some (placeholder.value case) ↔
      ∀ later ∈ placeholder.later, ¬later.key.toList <:+: (placeholder.value case).toList) ∧
    ((template.fill (.ofCase case))[position]?.map Text.ofText = some (placeholder.field case) ↔
      Text.isText (placeholder.field case) ∧
        ∀ later ∈ placeholder.later, ¬later.key.toList <:+: (placeholder.value case).toList) := by
  have filled : (template.fill (.ofCase case))[position]? = some
      ((Bindings.ofPlaceholders case placeholder.later).substitute (placeholder.value case)) := by
    rw [fill, List.getElem?_map, single, Option.map_some, Bindings.substitute_key_later]
  have kept : (Bindings.ofPlaceholders case placeholder.later).substitute
      (placeholder.value case) = placeholder.value case ↔
      ∀ later ∈ placeholder.later, ¬later.key.toList <:+: (placeholder.value case).toList := by
    rw [Bindings.substitute, ← String.toList_inj, String.toList_ofList,
      (Bindings.marking_later found member placeholder).apply_eq_self]
    exact List.forall_mem_map
  refine ⟨filled, ?_, ?_⟩
  · rw [filled, Option.some.injEq, kept]
  rw [filled, Option.map_some, Option.some.injEq, ← kept, placeholder.value_eq case]
  constructor
  · intro own
    have told := congrArg Text.shown own
    rw [Text.shown_ofText] at told
    exact ⟨Text.isText_iff.mpr ⟨_, own.symm⟩, told⟩
  · rintro ⟨text, same⟩
    rw [same]
    exact eq_of_beq text

def named : FileTree where
  entries := [(["tests"], .directory), (["\x7bactual\x7d", "tests"], .directory)]

def namedCase : Case := .ofDirectory "\x7bactual\x7d" "tests/\x7bactual\x7d" {}

-- A directory whose name is no text.
def stray : FileTree where
  entries := [(["tests"], .directory), ([Text.stray 0xFF, "tests"], .directory)]

def strayCase : Case := .ofDirectory "a\uFFFD" ("tests/" ++ Text.stray 0xFF) {}

theorem argument_own_path_iff_named :
    discover named "tests" {} = .ok [namedCase] ∧
    (fill ⟨"tool", ["\x7bprogram\x7d", "\x7bdiagnostics\x7d"]⟩ (.ofCase namedCase))[0]? ≠
      some namedCase.program ∧
    (fill ⟨"tool", ["\x7bprogram\x7d", "\x7bdiagnostics\x7d"]⟩ (.ofCase namedCase))[1]? =
      some namedCase.actualDiagnostics ∧
    discover stray "tests" {} = .ok [strayCase] ∧
    (fill ⟨"tool", ["\x7bprogram\x7d"]⟩ (.ofCase strayCase))[0]?.map Text.ofText ≠
      some strayCase.program := by
  have found : discover named "tests" {} = .ok [namedCase] := rfl
  have found' : discover stray "tests" {} = .ok [strayCase] := rfl
  have member : ∀ {case : Case}, case ∈ [case] := List.mem_singleton_self _
  refine ⟨found, ?_, ?_, found', ?_⟩
  · intro own
    have clean := (argument_own_path_iff found member _ 0 .program rfl).2.1.mp own
    exact clean .actual (by decide) ⟨"tests/".toList, "/a.frisc".toList, by decide⟩
  · exact (argument_own_path_iff found member _ 1 .diagnostics rfl).2.1.mpr (by decide)
  · intro own
    have text := ((argument_own_path_iff found' member _ 0 .program rfl).2.2.mp own).1
    exact absurd text (by decide)

theorem argument_leads_elsewhere :
    discover named "tests" {} = .ok [namedCase] ∧
    namedCase.program = "tests/\x7bactual\x7d/a.frisc" ∧
    fill ⟨"python3", ["./FRISCGenerator.py", "\x7bprogram\x7d"]⟩ (.ofCase namedCase) =
      ["./FRISCGenerator.py", "tests/tests/\x7bactual\x7d/my.out/a.frisc"] :=
  ⟨rfl, by decide, by decide +kernel⟩

end Command.Template
end Acceptance
