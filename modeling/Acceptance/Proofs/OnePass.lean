import Acceptance.Proofs.Substitution

namespace Acceptance

namespace Text

-- Substitution as a single pass. The placeholders are replaced one after the other, and each
-- replacement sees what the earlier ones have put in.

-- An opening brace has no other one between itself and the next closing brace.
def Unnested : List Char → Prop
  | [] => True
  | c :: rest =>
      (c = '\x7b' → '\x7d' ∈ rest → '\x7b' ∉ rest.takeWhile (· ≠ '\x7d')) ∧ Unnested rest

instance decidableUnnested : (text : List Char) → Decidable (Unnested text)
  | [] => .isTrue trivial
  | _ :: rest =>
      have := decidableUnnested rest
      inferInstanceAs (Decidable (_ ∧ _))

def Braced (key : List Char) : Prop :=
  ∃ name, '\x7b' ∉ name ∧ '\x7d' ∉ name ∧ key = '\x7b' :: (name ++ ['\x7d'])

variable {text front rest key name inner : List Char} {c : Char}

theorem Unnested.behind (unnested : Unnested (front ++ rest)) : Unnested rest := by
  induction front with
  | nil => exact unnested
  | cons c front ih => exact ih unnested.2

theorem Unnested.closes (unnested : Unnested ('\x7b' :: rest)) (closed : '\x7d' ∈ rest) :
    ∃ inner after, rest = inner ++ '\x7d' :: after ∧ '\x7b' ∉ inner ∧ '\x7d' ∉ inner := by
  have unopened := unnested.1 rfl closed
  obtain ⟨inner, after, rfl, unclosed⟩ := List.eq_append_cons_of_mem closed
  refine ⟨inner, after, rfl, ?_, unclosed⟩
  have kept : ∀ c ∈ inner, decide (c ≠ '\x7d') = true :=
    fun c member => decide_eq_true fun same => unclosed (same ▸ member)
  rw [List.takeWhile_append_of_pos kept, List.takeWhile_cons_of_neg (by decide),
    List.append_nil] at unopened
  exact unopened

theorem closed_prefix_iff (unclosed : '\x7d' ∉ name) (unclosed' : '\x7d' ∉ inner) :
    name ++ ['\x7d'] <+: inner ++ '\x7d' :: rest ↔ name = inner := by
  induction name generalizing inner with
  | nil =>
      cases inner with
      | nil => simp
      | cons c inner =>
          have differ : '\x7d' ≠ c := fun same => unclosed' (same ▸ List.mem_cons_self)
          simp [List.cons_prefix_cons, differ]
  | cons c name ih =>
      cases inner with
      | nil =>
          have differ : c ≠ '\x7d' := fun same => unclosed (same ▸ List.mem_cons_self)
          simp [List.cons_prefix_cons, differ]
      | cons d inner =>
          have later := ih (fun member => unclosed (List.mem_cons_of_mem _ member))
            (fun member => unclosed' (List.mem_cons_of_mem _ member))
          simp only [List.cons_append, List.cons_prefix_cons, later, List.cons.injEq]

theorem Braced.ne_nil (braced : Braced key) : key ≠ [] := by
  obtain ⟨name, _, _, rfl⟩ := braced
  exact List.cons_ne_nil _ _

-- A text begins with one key at most.
theorem Braced.unique {other : List Char} (braced : Braced key) (braced' : Braced other)
    (front : key <+: text) (front' : other <+: text) : key = other := by
  obtain ⟨name, _, bare, rfl⟩ := braced
  obtain ⟨name', _, bare', rfl⟩ := braced'
  obtain ⟨after, rfl⟩ := front
  rw [List.cons_append, List.append_assoc, List.singleton_append, List.prefix_cons_inj,
    closed_prefix_iff bare' bare] at front'
  rw [front']

theorem Braced.opened (braced : Braced key) (front : key <+: c :: rest) : c = '\x7b' := by
  obtain ⟨name, _, _, rfl⟩ := braced
  exact (List.cons_prefix_cons.mp front).1.symm

theorem Braced.closed (braced : Braced key) (front : key <+: text) : '\x7d' ∈ text := by
  obtain ⟨name, _, _, rfl⟩ := braced
  exact front.subset (by simp)

-- Behind an opening brace only what stands before the next closing one decides on the key.
theorem Braced.prefix_congr (braced : Braced key) {after after' : List Char}
    (unclosed : '\x7d' ∉ inner) :
    key <+: '\x7b' :: (inner ++ '\x7d' :: after) ↔
      key <+: '\x7b' :: (inner ++ '\x7d' :: after') := by
  obtain ⟨name, _, bare, rfl⟩ := braced
  rw [List.prefix_cons_inj, List.prefix_cons_inj, closed_prefix_iff bare unclosed,
    closed_prefix_iff bare unclosed]

end Text

namespace Bindings

open Text (Unnested Braced)

def leading? (bindings : Bindings) (text : List Char) : Option (List Char × List Char) :=
  bindings.find? fun binding => binding.1.isPrefixOf text

-- `skip` counts the characters of a placeholder that are still to be passed over.
def passFrom (bindings : Bindings) : Nat → List Char → List Char
  | _, [] => []
  | skip + 1, _ :: rest => passFrom bindings skip rest
  | 0, c :: rest =>
      match bindings.leading? (c :: rest) with
      | some (key, value) => value ++ passFrom bindings (key.length - 1) rest
      | none => c :: passFrom bindings 0 rest

-- The text with each placeholder replaced by its value and every other character kept. The values
-- are not searched.
def pass (bindings : Bindings) (text : List Char) : List Char := passFrom bindings 0 text

structure Plain (bindings : Bindings) : Prop where
  keys : ∀ binding ∈ bindings, Braced binding.1
  values : ∀ binding ∈ bindings, '\x7b' ∉ binding.2

variable {bindings first second : Bindings} {binding : List Char × List Char}
  {text front rest : List Char} {c : Char}

theorem Plain.of_subset (plain : bindings.Plain) (subset : first ⊆ bindings) : first.Plain :=
  ⟨fun binding member => plain.keys binding (subset member),
    fun binding member => plain.values binding (subset member)⟩

theorem Plain.filled (plain : bindings.Plain) : ∀ binding ∈ bindings, binding.1 ≠ [] :=
  fun binding member => (plain.keys binding member).ne_nil

theorem Plain.append (plain : first.Plain) (plain' : second.Plain) : (first ++ second).Plain := by
  constructor
  · intro binding member
    rcases List.mem_append.mp member with earlier | later
    · exact plain.keys binding earlier
    · exact plain'.keys binding later
  · intro binding member
    rcases List.mem_append.mp member with earlier | later
    · exact plain.values binding earlier
    · exact plain'.values binding later

theorem leading?_eq_none : bindings.leading? text = none ↔
    ∀ binding ∈ bindings, ¬binding.1 <+: text := by
  simp [leading?]

theorem leading?_some (found : bindings.leading? text = some binding) :
    binding ∈ bindings ∧ binding.1 <+: text := by
  refine ⟨List.mem_of_find?_eq_some found, ?_⟩
  simpa using List.find?_some found

theorem leading?_append : (first ++ second).leading? text =
    (first.leading? text).or (second.leading? text) := List.find?_append

theorem leading?_congr {text' : List Char}
    (same : ∀ binding ∈ bindings, (binding.1 <+: text ↔ binding.1 <+: text')) :
    bindings.leading? text = bindings.leading? text' := by
  unfold leading?
  induction bindings with
  | nil => rfl
  | cons binding bindings ih =>
      have here := same binding List.mem_cons_self
      have later := ih fun binding member => same binding (List.mem_cons_of_mem _ member)
      simp only [← List.isPrefixOf_iff_prefix, ← Bool.eq_iff_iff] at here
      rw [List.find?_cons, List.find?_cons, here, later]

theorem passFrom_skip (bindings : Bindings) (skip : Nat) (text : List Char) :
    bindings.passFrom skip text = bindings.pass (text.drop skip) := by
  induction text generalizing skip with
  | nil => cases skip <;> rfl
  | cons c rest ih =>
      cases skip with
      | zero => rfl
      | succ skip => exact ih skip

theorem pass_other (absent : bindings.leading? (c :: rest) = none) :
    bindings.pass (c :: rest) = c :: bindings.pass rest := by
  unfold pass
  rw [passFrom, absent]

theorem pass_found (filled : binding.1 ≠ [])
    (found : bindings.leading? (binding.1 ++ rest) = some binding) :
    bindings.pass (binding.1 ++ rest) = binding.2 ++ bindings.pass rest := by
  obtain ⟨key, value⟩ := binding
  cases key with
  | nil => exact absurd rfl filled
  | cons c name =>
      unfold pass
      rw [List.cons_append, passFrom, ← List.cons_append, found]
      simp only
      rw [passFrom_skip]
      simp [pass]

theorem pass_induction {motive : List Char → Prop}
    (filled : ∀ binding ∈ bindings, binding.1 ≠ []) (nil : motive [])
    (found : ∀ binding rest, bindings.leading? (binding.1 ++ rest) = some binding →
      motive rest → motive (binding.1 ++ rest))
    (other : ∀ c rest, bindings.leading? (c :: rest) = none → motive rest → motive (c :: rest))
    (text : List Char) : motive text := by
  induction size : text.length using Nat.strongRecOn generalizing text with
  | ind size ih =>
      subst size
      cases text with
      | nil => exact nil
      | cons c rest =>
          cases leading : bindings.leading? (c :: rest) with
          | none => exact other c rest leading (ih rest.length (Nat.lt_succ_self _) rest rfl)
          | some binding =>
              obtain ⟨member, later, parts⟩ := leading?_some leading
              rw [← parts] at leading ih ⊢
              refine found binding later leading (ih later.length ?_ later rfl)
              have shorter := List.length_pos_iff.mpr (filled binding member)
              rw [List.length_append]
              omega

theorem pass_nil_bindings (text : List Char) : pass [] text = text := by
  induction text with
  | nil => rfl
  | cons c rest ih => rw [pass_other rfl, ih]

theorem Plain.leading_unopened (plain : bindings.Plain) (other : c ≠ '\x7b') :
    bindings.leading? (c :: rest) = none := by
  rw [leading?_eq_none]
  intro binding member front
  exact other ((plain.keys binding member).opened front)

theorem Plain.pass_unopened (plain : bindings.Plain) (unopened : '\x7b' ∉ front) :
    bindings.pass (front ++ rest) = front ++ bindings.pass rest := by
  induction front with
  | nil => rfl
  | cons c front ih =>
      have other : c ≠ '\x7b' := fun same => unopened (same ▸ List.mem_cons_self)
      rw [List.cons_append, pass_other (plain.leading_unopened other),
        ih fun member => unopened (List.mem_cons_of_mem _ member)]
      rfl

theorem Plain.pass_unclosed (plain : bindings.Plain) (unclosed : '\x7d' ∉ text) :
    bindings.pass text = text := by
  induction text with
  | nil => rfl
  | cons c rest ih =>
      have absent : bindings.leading? (c :: rest) = none := by
        rw [leading?_eq_none]
        intro binding member front
        exact unclosed ((plain.keys binding member).closed front)
      rw [pass_other absent, ih fun member => unclosed (List.mem_cons_of_mem _ member)]

-- A pass behind an opening brace makes no placeholder out of it and destroys none.
theorem Plain.prefix_pass (plain : bindings.Plain) (unnested : Unnested (c :: rest))
    {key : List Char} (braced : Braced key) :
    key <+: c :: bindings.pass rest ↔ key <+: c :: rest := by
  by_cases opened : c = '\x7b'
  · subst opened
    by_cases closed : '\x7d' ∈ rest
    · obtain ⟨inner, after, rfl, unopened, unclosed⟩ := unnested.closes closed
      have copied : bindings.pass (inner ++ '\x7d' :: after) =
          inner ++ '\x7d' :: bindings.pass after := by
        rw [plain.pass_unopened unopened, pass_other (plain.leading_unopened (by decide))]
      rw [copied]
      exact braced.prefix_congr unclosed
    · rw [plain.pass_unclosed closed]
  · constructor
    · intro front
      exact absurd (braced.opened front) opened
    · intro front
      exact absurd (braced.opened front) opened

theorem Plain.leading_pass (plain : first.Plain) (plain' : second.Plain)
    (unnested : Unnested (c :: rest)) (absent : first.leading? (c :: rest) = none) :
    second.leading? (first.pass (c :: rest)) = second.leading? (c :: rest) := by
  rw [pass_other absent]
  refine leading?_congr fun binding member => ?_
  exact plain.prefix_pass unnested (plain'.keys binding member)

theorem Plain.pass_key (plain : bindings.Plain) {key : List Char} (braced : Braced key)
    (absent : bindings.leading? (key ++ rest) = none) :
    bindings.pass (key ++ rest) = key ++ bindings.pass rest := by
  obtain ⟨name, unopened, _, rfl⟩ := braced
  have tail : '\x7b' ∉ name ++ ['\x7d'] := by simp [unopened]
  rw [List.cons_append] at absent ⊢
  rw [pass_other absent, plain.pass_unopened tail, List.cons_append]

theorem Plain.pass_pass (plain : first.Plain) (plain' : second.Plain) (unnested : Unnested text) :
    second.pass (first.pass text) = (first ++ second).pass text := by
  have both := plain.append plain'
  induction text using pass_induction both.filled with
  | nil => rfl
  | found binding rest found ih =>
      have later := ih unnested.behind
      have braced := both.keys binding (leading?_some found).1
      rw [pass_found braced.ne_nil found, ← later]
      rw [leading?_append] at found
      cases leading : first.leading? (binding.1 ++ rest) with
      | some one =>
          rw [leading, Option.some_or, Option.some.injEq] at found
          subst found
          have unopened := plain.values one (leading?_some leading).1
          rw [pass_found braced.ne_nil leading, plain'.pass_unopened unopened]
      | none =>
          rw [leading, Option.none_or] at found
          have copied := plain.pass_key braced leading
          have kept : second.leading? (first.pass (binding.1 ++ rest)) = some binding := by
            obtain ⟨name, _, _, key⟩ := braced
            rw [key, List.cons_append] at leading unnested found ⊢
            rw [plain.leading_pass plain' unnested leading, found]
          rw [copied] at kept ⊢
          exact pass_found braced.ne_nil kept
  | other c rest absent ih =>
      rw [pass_other absent]
      rw [leading?_append, Option.or_eq_none_iff] at absent
      have kept := plain.leading_pass plain' unnested absent.1
      rw [absent.2, pass_other absent.1] at kept
      rw [pass_other absent.1, pass_other kept, ih unnested.2]

theorem pass_single (filled : ∀ one ∈ [binding], one.1 ≠ []) (text : List Char) :
    pass [binding] text = Text.replaceAll binding.1 binding.2 text := by
  have here := filled binding (List.mem_singleton_self _)
  induction text using pass_induction filled with
  | nil => rfl
  | found one rest found ih =>
      obtain rfl := List.mem_singleton.mp (leading?_some found).1
      rw [pass_found here found, Text.replaceAll_front _ here, ih]
  | other c rest absent ih =>
      have nowhere := leading?_eq_none.mp absent binding (List.mem_singleton_self _)
      rw [pass_other absent, Text.replaceAll_cons, if_neg nowhere, ih]

theorem Plain.apply_pass (plain : bindings.Plain) (plain' : first.Plain)
    (unnested : Unnested text) :
    bindings.apply (first.pass text) = (first ++ bindings).pass text := by
  induction bindings generalizing first with
  | nil => rw [List.append_nil]; rfl
  | cons binding bindings ih =>
      have here : Plain [binding] :=
        plain.of_subset (List.cons_subset.mpr ⟨List.mem_cons_self, List.nil_subset _⟩)
      have later : Plain bindings := plain.of_subset (List.subset_cons_self _ _)
      rw [apply_cons, ← pass_single here.filled, plain'.pass_pass here unnested,
        ih later (plain'.append here), List.append_assoc, List.singleton_append]

theorem Plain.apply_eq_pass (plain : bindings.Plain) (unnested : Unnested text) :
    bindings.apply text = bindings.pass text := by
  have once := plain.apply_pass (plain.of_subset (List.nil_subset _)) unnested
  rwa [pass_nil_bindings, List.nil_append] at once

theorem pass_congr (same : ∀ text, first.leading? text = second.leading? text) :
    first.pass text = second.pass text := by
  have alike : ∀ skip, first.passFrom skip text = second.passFrom skip text := by
    intro skip
    induction text generalizing skip with
    | nil => cases skip <;> rfl
    | cons c rest ih =>
        cases skip with
        | succ skip => exact ih skip
        | zero =>
            rw [passFrom, passFrom, same (c :: rest)]
            cases second.leading? (c :: rest) with
            | none => simp only [ih]
            | some binding => simp only [ih]
  exact alike 0

theorem leading?_eq_some (plain : bindings.Plain)
    (once : ∀ one ∈ bindings, ∀ other ∈ bindings, one.1 = other.1 → one = other) :
    bindings.leading? text = some binding ↔ binding ∈ bindings ∧ binding.1 <+: text := by
  constructor
  · exact leading?_some
  · rintro ⟨member, front⟩
    cases leading : bindings.leading? text with
    | none => exact absurd front (leading?_eq_none.mp leading binding member)
    | some one =>
        obtain ⟨member', front'⟩ := leading?_some leading
        have same := (plain.keys one member').unique (plain.keys binding member) front' front
        rw [once one member' binding member same]

theorem Plain.pass_perm (plain : bindings.Plain)
    (once : ∀ one ∈ bindings, ∀ other ∈ bindings, one.1 = other.1 → one = other)
    (same : first.Perm bindings) : first.pass text = bindings.pass text := by
  have plain' := plain.of_subset same.subset
  have once' : ∀ one ∈ first, ∀ other ∈ first, one.1 = other.1 → one = other :=
    fun one member other member' =>
      once one (same.mem_iff.mp member) other (same.mem_iff.mp member')
  refine pass_congr fun text => Option.ext fun binding => ?_
  rw [leading?_eq_some plain' once', leading?_eq_some plain once, same.mem_iff]

theorem Plain.apply_apply (plain : bindings.Plain) (unnested : Unnested text) :
    bindings.apply (bindings.apply text) = bindings.apply text := by
  rw [plain.apply_eq_pass unnested, plain.apply_pass plain unnested]
  refine pass_congr fun text => ?_
  rw [leading?_append, Option.or_self]

end Bindings

theorem Placeholder.key_braced (placeholder : Placeholder) :
    Text.Braced placeholder.key.toList := by
  refine ⟨placeholder.key.toList.tail.dropLast, ?_, ?_, ?_⟩
  · cases placeholder <;> decide
  · cases placeholder <;> decide
  · cases placeholder <;> decide

namespace Bindings

theorem ofCase_plain {case : Case}
    (unopened : ∀ placeholder : Placeholder, '\x7b' ∉ (placeholder.value case).toList) :
    (ofCase case).Plain := by
  constructor
  · intro binding member
    obtain ⟨placeholder, _, rfl⟩ := List.mem_map.mp member
    exact placeholder.key_braced
  · intro binding member
    obtain ⟨placeholder, _, rfl⟩ := List.mem_map.mp member
    exact unopened placeholder

theorem ofCase_once (case : Case) : ∀ one ∈ ofCase case, ∀ other ∈ ofCase case,
    one.1 = other.1 → one = other := by
  intro one member other member' same
  obtain ⟨placeholder, _, rfl⟩ := List.mem_map.mp member
  obtain ⟨placeholder', _, rfl⟩ := List.mem_map.mp member'
  have key : placeholder.key.toList = placeholder'.key.toList := same
  have part : placeholder.key.toList <:+: placeholder'.key.toList := key ▸ List.infix_rfl
  rw [Placeholder.eq_of_key_infix part]

def substituteAtOnce (bindings : Bindings) (text : String) : String :=
  String.ofList (bindings.pass text.toList)

theorem substitute_at_once (case : Case)
    (unopened : ∀ placeholder : Placeholder, '\x7b' ∉ (placeholder.value case).toList)
    (text : String) (unnested : Text.Unnested text.toList) :
    (ofCase case).substitute text = (ofCase case).substituteAtOnce text ∧
    (∀ reordered : Bindings, reordered.Perm (ofCase case) →
      reordered.substitute text = (ofCase case).substitute text) ∧
    (ofCase case).substitute ((ofCase case).substitute text) = (ofCase case).substitute text := by
  have plain := ofCase_plain unopened
  unfold substitute substituteAtOnce
  refine ⟨?_, ?_, ?_⟩
  · rw [plain.apply_eq_pass unnested]
  · intro reordered same
    rw [(plain.of_subset same.subset).apply_eq_pass unnested, plain.apply_eq_pass unnested,
      plain.pass_perm (ofCase_once case) same]
  · rw [String.toList_ofList, plain.apply_apply unnested]

-- An unknown group, a stray brace and a group that is never closed, around a placeholder.
theorem substitute_at_once_stray :
    (∀ placeholder : Placeholder,
      '\x7b' ∉ (placeholder.value (Case.ofDirectory "add" "tests/add" {})).toList) ∧
    Text.Unnested "\x7bcases\x7d\x7d\x7binput\x7d\x7bdir \x7b".toList ∧
    (ofCase (Case.ofDirectory "add" "tests/add" {})).substitute
      "\x7bcases\x7d\x7d\x7binput\x7d\x7bdir \x7b" =
      "\x7bcases\x7d\x7dtests/add/test.in\x7bdir \x7b" := by
  have unopened : ∀ placeholder : Placeholder,
      '\x7b' ∉ (placeholder.value (Case.ofDirectory "add" "tests/add" {})).toList := by
    intro placeholder
    cases placeholder <;> decide
  have unnested : Text.Unnested "\x7bcases\x7d\x7d\x7binput\x7d\x7bdir \x7b".toList := by decide
  refine ⟨unopened, unnested, ?_⟩
  rw [(substitute_at_once _ unopened _ unnested).1]
  decide

end Bindings
end Acceptance
