import Mathlib.Data.List.Nodup
import Acceptance.Toml.Reader

namespace Acceptance.Toml

-- No table of a document has a key twice, at whatever depth and however it came about.

def Keyed {α : Type} (entries : List (String × α)) : Prop := (entries.map Prod.fst).Nodup

namespace Keyed

variable {α : Type} {entries other : List (String × α)} {key : String} {value : α}

theorem perm (keyed : Keyed entries) (permuted : entries.Perm other) : Keyed other :=
  (permuted.map Prod.fst).nodup_iff.mp keyed

theorem lookup_iff_mem (keyed : Keyed entries) :
    entries.lookup key = some value ↔ (key, value) ∈ entries := by
  induction entries with
  | nil => simp
  | cons entry entries ih =>
      obtain ⟨name, content⟩ := entry
      obtain ⟨fresh, keyed⟩ := List.nodup_cons.mp keyed
      rw [List.lookup_cons, List.mem_cons]
      by_cases here : key = name
      · subst here
        have absent : (key, value) ∉ entries := fun member =>
          fresh (List.mem_map.mpr ⟨_, member, rfl⟩)
        simp [absent, eq_comm]
      · simp [beq_false_of_ne here, here, ih keyed]

theorem lookup_perm (keyed : Keyed entries) (permuted : entries.Perm other) (key : String) :
    other.lookup key = entries.lookup key := by
  ext value
  rw [keyed.lookup_iff_mem, (keyed.perm permuted).lookup_iff_mem, permuted.mem_iff]

end Keyed

inductive Value.Tidy : Value → Prop where
  | text (content : String) : Tidy (.text content)
  | integer (value : Int) : Tidy (.integer value)
  | quantity (value : Quantity) : Tidy (.quantity value)
  | boolean (value : Bool) : Tidy (.boolean value)
  | moment : Tidy .moment
  | array {items : List Value} (inside : ∀ item ∈ items, Tidy item) : Tidy (.array items)
  | table {entries : List (String × Value)} (keyed : Keyed entries)
      (inside : ∀ entry ∈ entries, Tidy entry.2) : Tidy (.table entries)

inductive Node.Tidy : Node → Prop where
  | leaf {value : Value} (tidy : value.Tidy) : Tidy (.leaf value)
  | table {origin : Origin} {entries : Entries} (keyed : Keyed entries)
      (inside : ∀ entry ∈ entries, Tidy entry.2) : Tidy (.table origin entries)
  | tables {items : List Entries} (keyed : ∀ entries ∈ items, Keyed entries)
      (inside : ∀ entries ∈ items, ∀ entry ∈ entries, Tidy entry.2) : Tidy (.tables items)

namespace Entries

structure Tidy (entries : Entries) : Prop where
  keyed : Keyed entries
  inside : ∀ entry ∈ entries, entry.2.Tidy

variable {entries after : Entries} {path : List String} {key : String} {node : Node}
  {origin via : Origin}

theorem Tidy.nil : Tidy [] := ⟨List.nodup_nil, by simp⟩

theorem Tidy.find? (tidy : Tidy entries) (found : entries.find? key = some node) : node.Tidy := by
  obtain ⟨front, back, form, -⟩ := List.lookup_eq_some_iff.mp found
  exact tidy.inside (key, node) (by simp [form])

theorem put_keys (entries : Entries) (key : String) (node : Node) :
    ∀ name ∈ (put entries key node).map Prod.fst, name = key ∨ name ∈ entries.map Prod.fst := by
  induction entries with
  | nil => simp [put]
  | cons entry entries ih =>
      intro name member
      rw [put] at member
      split at member
      · simp only [List.map_cons, List.mem_cons] at member ⊢
        tauto
      · simp only [List.map_cons, List.mem_cons] at member ⊢
        rcases member with same | below
        · exact .inr (.inl same)
        · exact (ih name below).imp_right .inr

theorem Tidy.put (tidy : Tidy entries) (key : String) (fits : node.Tidy) :
    Tidy (entries.put key node) := by
  induction entries with
  | nil => exact ⟨List.nodup_singleton key, by simpa [Entries.put] using fits⟩
  | cons entry entries ih =>
      obtain ⟨fresh, keyed⟩ := List.nodup_cons.mp tidy.keyed
      have below : ∀ entry ∈ entries, entry.2.Tidy := fun entry member =>
        tidy.inside entry (List.mem_cons_of_mem _ member)
      rw [Entries.put]
      split
      · next same =>
        exact ⟨List.nodup_cons.mpr ⟨same ▸ fresh, keyed⟩, List.forall_mem_cons.mpr ⟨fits, below⟩⟩
      · next other =>
        have rest := ih ⟨keyed, below⟩
        refine ⟨List.nodup_cons.mpr ⟨fun member => ?_, rest.keyed⟩,
          List.forall_mem_cons.mpr ⟨tidy.inside entry List.mem_cons_self, rest.inside⟩⟩
        exact (put_keys entries key node _ member).elim other fresh

-- A change at the end of a path that keeps its table tidy keeps all the tables around it so.
theorem Tidy.edit {change : Origin → Entries → Option Entries}
    (keeps : ∀ {origin entries after}, Tidy entries → change origin entries = some after →
      Tidy after)
    (tidy : Tidy entries) (edited : edit via change path origin entries = some after) :
    Tidy after := by
  induction path generalizing origin entries after with
  | nil => exact keeps tidy edited
  | cons key path ih =>
      rw [Entries.edit] at edited
      split at edited
      · obtain ⟨inner, done, rfl⟩ := Option.map_eq_some_iff.mp edited
        have inner := ih .nil done
        exact tidy.put key (.table inner.keyed inner.inside)
      · next origin inner found =>
        split at edited
        · cases edited
        · obtain ⟨inner, done, rfl⟩ := Option.map_eq_some_iff.mp edited
          cases tidy.find? found with
          | table keyed inside =>
              have inner := ih ⟨keyed, inside⟩ done
              exact tidy.put key (.table inner.keyed inner.inside)
      · next latest earlier found =>
        obtain ⟨inner, done, rfl⟩ := Option.map_eq_some_iff.mp edited
        cases tidy.find? found with
        | tables keyed inside =>
            obtain ⟨keyed, others⟩ := List.forall_mem_cons.mp keyed
            obtain ⟨inside, others'⟩ := List.forall_mem_cons.mp inside
            have inner := ih ⟨keyed, inside⟩ done
            exact tidy.put key (.tables (List.forall_mem_cons.mpr ⟨inner.keyed, others⟩)
              (List.forall_mem_cons.mpr ⟨inner.inside, others'⟩))
      · cases edited
      · cases edited

theorem Tidy.insert {value : Value} (fits : value.Tidy) (tidy : Tidy entries)
    (inserted : insert path key value origin entries = some after) : Tidy after := by
  refine tidy.edit ?_ inserted
  intro origin entries after tidy changed
  split at changed
  · cases changed
  · split at changed
    · cases changed
    · cases changed
      exact tidy.put key (.leaf fits)

theorem Tidy.openTable (tidy : Tidy entries)
    (opened : openTable path key origin entries = some after) : Tidy after := by
  refine tidy.edit ?_ opened
  intro origin entries after tidy changed
  split at changed
  · cases changed
    exact tidy.put key (.table Tidy.nil.keyed Tidy.nil.inside)
  · next inner found =>
    cases changed
    cases tidy.find? found with
    | table keyed inside => exact tidy.put key (.table keyed inside)
  · cases changed

theorem Tidy.openItem (tidy : Tidy entries)
    (opened : openItem path key origin entries = some after) : Tidy after := by
  refine tidy.edit ?_ opened
  intro origin entries after tidy changed
  split at changed
  · cases changed
    exact tidy.put key (.tables (by simpa using Tidy.nil.keyed) (by simp))
  · next items found =>
    cases changed
    cases tidy.find? found with
    | tables keyed inside =>
        exact tidy.put key (.tables (List.forall_mem_cons.mpr ⟨Tidy.nil.keyed, keyed⟩)
          (List.forall_mem_cons.mpr ⟨Tidy.nil.inside, inside⟩))
  · cases changed

end Entries

theorem entryValues_eq_map (entries : Entries) :
    entryValues entries = entries.map fun entry => (entry.1, entry.2.value) := by
  induction entries with
  | nil => rfl
  | cons entry entries ih => rw [entryValues, ih, List.map_cons]

theorem itemValues_eq_map (items : List Entries) :
    itemValues items = items.map fun entries => .table (entryValues entries) := by
  induction items with
  | nil => rfl
  | cons entries items ih => rw [itemValues, ih, List.map_cons]

theorem entryValues_tidy {entries : Entries} (keyed : Keyed entries)
    (inside : ∀ entry ∈ entries, entry.2.value.Tidy) :
    (Value.table (entryValues entries)).Tidy := by
  rw [entryValues_eq_map]
  refine .table ?_ ?_
  · rwa [Keyed, List.map_map]
  · intro entry member
    obtain ⟨source, listed, rfl⟩ := List.mem_map.mp member
    exact inside source listed

theorem Node.Tidy.value {node : Node} (tidy : node.Tidy) : node.value.Tidy := by
  induction tidy with
  | leaf tidy => exact tidy
  | table keyed inside ih => exact entryValues_tidy keyed ih
  | tables keyed inside ih =>
      rw [Node.value, itemValues_eq_map]
      refine .array fun item member => ?_
      obtain ⟨entries, listed, rfl⟩ := List.mem_map.mp (List.mem_reverse.mp member)
      exact entryValues_tidy (keyed entries listed) (ih entries listed)

theorem Entries.Tidy.value {entries : Entries} (tidy : entries.Tidy) :
    (Value.table (entryValues entries)).Tidy :=
  entryValues_tidy tidy.keyed fun entry member => (tidy.inside entry member).value

def ReadsTidy (item : List Char → Option (Value × List Char)) : Prop :=
  ∀ {text value rest}, item text = some (value, rest) → value.Tidy

theorem scalar_tidy {token : List Char} {value : Value} (read : scalar? token = some value) :
    value.Tidy := by
  unfold scalar? at read
  split at read
  · cases read
    exact .boolean true
  split at read
  · cases read
    exact .boolean false
  split at read
  · cases read
    exact .moment
  rcases Option.or_eq_some_iff.mp read with integer | ⟨-, quantity⟩
  · obtain ⟨number, -, rfl⟩ := Option.map_eq_some_iff.mp integer
    exact .integer number
  · obtain ⟨number, -, rfl⟩ := Option.map_eq_some_iff.mp quantity
    exact .quantity number

theorem readScalar_tidy : ReadsTidy readScalar? := by
  intro text value rest read
  obtain ⟨found, scalar, same⟩ := Option.map_eq_some_iff.mp read
  cases same
  exact scalar_tidy scalar

section Items

variable {item : List Char → Option (Value × List Char)} {text rest : List Char}

theorem readItems_tidy (each : ReadsTidy item) {fuel : Nat} {values : List Value}
    (read : readItems? item fuel text = some (values, rest)) : ∀ value ∈ values, value.Tidy := by
  induction fuel generalizing text values rest with
  | zero => cases read
  | succ fuel ih =>
      obtain ⟨opened, -, read⟩ := Option.bind_eq_some_iff.mp read
      split at read
      · cases read
        simp
      · obtain ⟨⟨value, middle⟩, first, read⟩ := Option.bind_eq_some_iff.mp read
        obtain ⟨next, -, read⟩ := Option.bind_eq_some_iff.mp read
        split at read
        · obtain ⟨⟨values, ending⟩, more, same⟩ := Option.bind_eq_some_iff.mp read
          cases same
          exact List.forall_mem_cons.mpr ⟨each first, ih more⟩
        · cases read
          simpa using each first
        · cases read

theorem readEntry_tidy {skip : List Char → Option (List Char)} (each : ReadsTidy item) {key : Key}
    {value : Value} (read : readEntry? skip item text = some (key, value, rest)) : value.Tidy := by
  obtain ⟨⟨name, after⟩, -, read⟩ := Option.bind_eq_some_iff.mp read
  obtain ⟨sign, -, read⟩ := Option.bind_eq_some_iff.mp read
  dsimp only at read
  split at read
  · obtain ⟨start, -, read⟩ := Option.bind_eq_some_iff.mp read
    obtain ⟨⟨found, ending⟩, first, same⟩ := Option.bind_eq_some_iff.mp read
    cases same
    exact each first
  · cases read

theorem readEntries_tidy (each : ReadsTidy item) {fuel : Nat} {entries after : Entries}
    (tidy : entries.Tidy) (read : readEntries? item fuel entries text = some (after, rest)) :
    after.Tidy := by
  induction fuel generalizing text entries with
  | zero => cases read
  | succ fuel ih =>
      obtain ⟨opened, -, read⟩ := Option.bind_eq_some_iff.mp read
      split at read
      · cases read
        exact tidy
      · obtain ⟨⟨key, value, middle⟩, first, read⟩ := Option.bind_eq_some_iff.mp read
        obtain ⟨extended, inserted, read⟩ := Option.bind_eq_some_iff.mp read
        have tidy := tidy.insert (readEntry_tidy each first) inserted
        obtain ⟨next, -, read⟩ := Option.bind_eq_some_iff.mp read
        split at read
        · exact ih tidy read
        · cases read
          exact tidy
        · cases read

end Items

theorem readText_tidy {text rest : List Char} {value : Value}
    (read : (readString? text).map (fun (content, rest) =>
      (Value.text (String.ofList content), rest)) = some (value, rest)) : value.Tidy := by
  obtain ⟨⟨content, ending⟩, -, same⟩ := Option.map_eq_some_iff.mp read
  cases same
  exact .text _

theorem readValue_tidy (depth : Nat) : ReadsTidy (readValue? depth) := by
  induction depth with
  | zero =>
      intro text value rest read
      unfold readValue? at read
      split at read
      · cases read
      · cases read
      · exact readText_tidy read
      · exact readText_tidy read
      · exact readScalar_tidy read
  | succ depth ih =>
      intro text value rest read
      unfold readValue? at read
      split at read
      · obtain ⟨⟨values, ending⟩, items, same⟩ := Option.map_eq_some_iff.mp read
        cases same
        exact .array (readItems_tidy ih items)
      · obtain ⟨⟨entries, ending⟩, inside, same⟩ := Option.map_eq_some_iff.mp read
        cases same
        exact (readEntries_tidy ih .nil inside).value
      · exact readText_tidy read
      · exact readText_tidy read
      · exact readScalar_tidy read

def Statement.Tidy : Statement → Prop
  | .entry _ value => value.Tidy
  | .header _ | .itemHeader _ => True

theorem readStatement_tidy {text rest : List Char} {statement : Statement}
    (read : readStatement? text = some (statement, rest)) : statement.Tidy := by
  unfold readStatement? at read
  split at read
  · obtain ⟨⟨key, after⟩, -, read⟩ := Option.bind_eq_some_iff.mp read
    dsimp only at read
    split at read
    · cases read
      trivial
    · cases read
  · obtain ⟨⟨key, after⟩, -, read⟩ := Option.bind_eq_some_iff.mp read
    dsimp only at read
    split at read
    · cases read
      trivial
    · cases read
  · obtain ⟨⟨key, value, after⟩, entry, same⟩ := Option.bind_eq_some_iff.mp read
    cases same
    exact readEntry_tidy (readValue_tidy nestingLimit) entry

theorem readStatements_tidy {fuel : Nat} {text : List Char} {statements : List Statement}
    (read : readStatements? fuel text = some statements) :
    ∀ statement ∈ statements, statement.Tidy := by
  induction fuel generalizing text statements with
  | zero =>
      cases text <;> cases read
      simp
  | succ fuel ih =>
      cases text with
      | nil =>
          cases read
          simp
      | cons c text =>
          obtain ⟨⟨statement, after⟩, first, read⟩ := Option.bind_eq_some_iff.mp read
          obtain ⟨next, -, read⟩ := Option.bind_eq_some_iff.mp read
          obtain ⟨below, more, same⟩ := Option.bind_eq_some_iff.mp read
          cases same
          exact List.forall_mem_cons.mpr ⟨readStatement_tidy first, ih more⟩

theorem Draft.step_tidy {draft after : Draft} {statement : Statement} (fits : statement.Tidy)
    (tidy : draft.entries.Tidy) (stepped : draft.step statement = some after) :
    after.entries.Tidy := by
  cases statement with
  | entry key value =>
      obtain ⟨entries, edited, rfl⟩ := Option.map_eq_some_iff.mp stepped
      exact tidy.edit (fun tidy inserted => tidy.insert fits inserted) edited
  | header key =>
      obtain ⟨entries, opened, rfl⟩ := Option.map_eq_some_iff.mp stepped
      exact tidy.openTable opened
  | itemHeader key =>
      obtain ⟨entries, opened, rfl⟩ := Option.map_eq_some_iff.mp stepped
      exact tidy.openItem opened

theorem Draft.steps_tidy {statements : List Statement}
    (fits : ∀ statement ∈ statements, statement.Tidy) {draft after : Draft}
    (tidy : draft.entries.Tidy) (stepped : statements.foldlM Draft.step draft = some after) :
    after.entries.Tidy := by
  induction statements generalizing draft with
  | nil =>
      cases stepped
      exact tidy
  | cons statement statements ih =>
      obtain ⟨next, first, rest⟩ := Option.bind_eq_some_iff.mp stepped
      obtain ⟨fit, fits⟩ := List.forall_mem_cons.mp fits
      exact ih fits (Draft.step_tidy fit tidy first) rest

theorem parse_tidy {text : List Char} {entries : List (String × Value)}
    (parsed : parse? text = some entries) : (Value.table entries).Tidy := by
  obtain ⟨start, -, parsed⟩ := Option.bind_eq_some_iff.mp parsed
  obtain ⟨statements, read, parsed⟩ := Option.bind_eq_some_iff.mp parsed
  obtain ⟨draft, stepped, same⟩ := Option.bind_eq_some_iff.mp parsed
  cases same
  exact (Draft.steps_tidy (readStatements_tidy read) .nil stepped).value

end Acceptance.Toml
