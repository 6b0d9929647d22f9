import Acceptance.Run
import Acceptance.Proofs.Course

namespace Acceptance.Run

-- The loop over the cases as a list of laps, one for each case that is taken up. A fault ends the
-- last lap; nothing follows it.

-- One case in the loop: the session it is given, what comes of it, and the session it leaves.
structure Lap where
  case : Case
  start : Session
  result : Except Fault Record
  finish : Session

namespace Lap

def of (pipeline : Pipeline) (case : Case) (session : Session) : Lap :=
  let start := session.say (Report.bannerLine pipeline.shown case.name)
  { case, start
    result := (pipeline.runCase case start).1
    finish := (pipeline.runCase case start).2 }

def deeds (lap : Lap) : List Event := lap.finish.deeds.drop lap.start.deeds.length

def onwards (pipeline : Pipeline) (record : Record) (lap : Lap) : Session :=
  lap.finish.say (Report.outcomeLine pipeline.shown record)

end Lap

-- The lap and those behind it. Only a case without a fault has any.
def Lap.andThen (lap : Lap) (later : Record → List Lap) : List Lap :=
  match lap.result with
  | .error _ => [lap]
  | .ok record => lap :: later record

def laps (pipeline : Pipeline) : List Case → Session → List Lap
  | [], _ => []
  | case :: cases, session =>
      (Lap.of pipeline case session).andThen fun record =>
        laps pipeline cases ((Lap.of pipeline case session).onwards pipeline record)

-- Each lap begins in the tree that the one before has left.
def Linked (tree : FileTree) : List Lap → FileTree → Prop
  | [], after => after = tree
  | lap :: rest, after => lap.start.tree = tree ∧ Linked lap.finish.tree rest after

variable {pipeline : Pipeline} {case : Case} {cases : List Case} {session : Session} {lap : Lap}
  {summary : Summary} {record : Record} {fault : Fault}

theorem runCase_name (recorded : (pipeline.runCase case session).1 = .ok record) :
    record.name = case.name := by
  unfold Pipeline.runCase at recorded
  generalize pipeline.classify case session = step at recorded
  obtain ⟨result, after⟩ := step
  cases result with
  | error fault => cases recorded
  | ok outcome =>
      cases recorded
      rfl

attribute [local irreducible] Pipeline.runCase

theorem Lap.of_ran :
    pipeline.runCase (Lap.of pipeline case session).case (Lap.of pipeline case session).start =
      ((Lap.of pipeline case session).result, (Lap.of pipeline case session).finish) := rfl

@[simp] theorem Lap.of_start_deeds : (Lap.of pipeline case session).start.deeds = session.deeds :=
  Session.say_deeds _

theorem Lap.of_course (pipeline : Pipeline) (case : Case) (session : Session) :
    Pipeline.Course pipeline case session.tree (Lap.of pipeline case session).deeds
      ((Lap.of pipeline case session).result.map (·.outcome))
      (Lap.of pipeline case session).finish.tree ∧
    (Lap.of pipeline case session).finish.deeds =
      (Lap.of pipeline case session).start.deeds ++ (Lap.of pipeline case session).deeds := by
  obtain ⟨deeds, course, done⟩ := Pipeline.runCase_course pipeline case
    (Lap.of pipeline case session).start
  have own : (Lap.of pipeline case session).deeds = deeds :=
    (congrArg (List.drop _) done).trans List.drop_left
  rw [own]
  exact ⟨course, done⟩

theorem runCases_eq : runCases pipeline (case :: cases) summary session =
    match pipeline.runCase case (session.say (Report.bannerLine pipeline.shown case.name)) with
    | (.error fault, session) => (.error (case.name, fault), session)
    | (.ok record, session) =>
        runCases pipeline cases (summary.add record)
          (session.say (Report.outcomeLine pipeline.shown record)) := rfl

theorem runCases_cons : runCases pipeline (case :: cases) summary session =
    match (Lap.of pipeline case session).result with
    | .error fault => (.error (case.name, fault), (Lap.of pipeline case session).finish)
    | .ok record =>
        runCases pipeline cases (summary.add record)
          ((Lap.of pipeline case session).onwards pipeline record) := by
  rw [runCases_eq]
  unfold Lap.onwards Lap.of
  simp only
  generalize pipeline.runCase case
    (session.say (Report.bannerLine pipeline.shown case.name)) = step
  obtain ⟨result, finish⟩ := step
  cases result <;> rfl

theorem laps_cases (pipeline : Pipeline) (cases : List Case) (session : Session) :
    (laps pipeline cases session).map (·.case) <+: cases := by
  induction cases generalizing session with
  | nil => exact List.prefix_rfl
  | cons case cases ih =>
      rw [laps, Lap.andThen]
      split
      · exact ⟨cases, rfl⟩
      · exact (List.prefix_cons_inj _).mpr (ih _)

theorem mem_laps (member : lap ∈ laps pipeline cases session) :
    ∃ case session, lap = Lap.of pipeline case session := by
  induction cases generalizing session with
  | nil => cases member
  | cons case cases ih =>
      rw [laps, Lap.andThen] at member
      split at member
      · exact ⟨case, session, List.mem_singleton.mp member⟩
      · rcases List.mem_cons.mp member with rfl | later
        · exact ⟨case, session, rfl⟩
        · exact ih later

theorem laps_named (member : lap ∈ laps pipeline cases session)
    (recorded : lap.result = .ok record) : record.name = lap.case.name := by
  obtain ⟨case, session, rfl⟩ := mem_laps member
  exact runCase_name recorded

theorem laps_deeds (pipeline : Pipeline) (cases : List Case) (summary : Summary)
    (session : Session) :
    (runCases pipeline cases summary session).2.deeds =
      session.deeds ++ (laps pipeline cases session).flatMap (·.deeds) := by
  induction cases generalizing summary session with
  | nil => exact (List.append_nil _).symm
  | cons case cases ih =>
      have done := (Lap.of_course pipeline case session).2
      rw [Lap.of_start_deeds] at done
      rw [runCases_cons, laps, Lap.andThen]
      cases result : (Lap.of pipeline case session).result with
      | error fault => simpa using done
      | ok record =>
          simp only [List.flatMap_cons]
          rw [ih, Lap.onwards, Session.say_deeds, done, List.append_assoc]

theorem laps_linked (pipeline : Pipeline) (cases : List Case) (summary : Summary)
    (session : Session) : Linked session.tree (laps pipeline cases session)
      (runCases pipeline cases summary session).2.tree := by
  induction cases generalizing summary session with
  | nil => rfl
  | cons case cases ih =>
      rw [runCases_cons, laps, Lap.andThen]
      cases result : (Lap.of pipeline case session).result with
      | error fault => exact ⟨rfl, rfl⟩
      | ok record =>
          refine ⟨rfl, ?_⟩
          have later := ih (summary.add record)
            ((Lap.of pipeline case session).onwards pipeline record)
          rwa [Lap.onwards, Session.say_tree] at later

structure Finished (pipeline : Pipeline) (cases : List Case) (session : Session)
    (records : List Record) : Prop where
  all : (laps pipeline cases session).map (·.case) = cases
  results : (laps pipeline cases session).map (·.result) = records.map .ok

-- The last lap has met a fault, and no lap before it.
structure Broken (pipeline : Pipeline) (cases : List Case) (session : Session)
    (earlier : List Lap) (lap : Lap) (fault : Fault) : Prop where
  last : laps pipeline cases session = earlier ++ [lap]
  recorded : ∀ before ∈ earlier, ∃ record, before.result = .ok record
  failed : lap.result = .error fault

theorem Finished.names {records : List Record}
    (finished : Finished pipeline cases session records) :
    records.map (·.name) = cases.map (·.name) := by
  have named : ∀ lap ∈ laps pipeline cases session, ∀ record, lap.result = .ok record →
      record.name = lap.case.name := fun lap member record => laps_named member
  obtain ⟨all, results⟩ := finished
  rw [← all]
  clear all
  generalize laps pipeline cases session = taken at named results
  induction taken generalizing records with
  | nil =>
      rw [List.map_nil, eq_comm, List.map_eq_nil_iff] at results
      rw [results]
      rfl
  | cons lap taken ih =>
      cases records with
      | nil => cases results
      | cons record records =>
          rw [List.map_cons, List.map_cons, List.cons.injEq] at results
          simp only [List.map_cons, List.cons.injEq]
          exact ⟨named lap List.mem_cons_self record results.1,
            ih (fun lap member => named lap (List.mem_cons_of_mem _ member)) results.2⟩

theorem runCases_ends (pipeline : Pipeline) (cases : List Case) (summary : Summary)
    (session : Session) :
    (∃ records, Finished pipeline cases session records ∧
        (runCases pipeline cases summary session).1 = .ok (records.foldl Summary.add summary)) ∨
      ∃ earlier lap fault, Broken pipeline cases session earlier lap fault ∧
        runCases pipeline cases summary session = (.error (lap.case.name, fault), lap.finish) := by
  induction cases generalizing summary session with
  | nil => exact .inl ⟨[], ⟨rfl, rfl⟩, rfl⟩
  | cons case cases ih =>
      rw [runCases_cons]
      cases result : (Lap.of pipeline case session).result with
      | error fault =>
          refine .inr ⟨[], Lap.of pipeline case session, fault, ⟨?_, by simp, result⟩, rfl⟩
          rw [laps, Lap.andThen, result]
          rfl
      | ok record =>
          have unfolded : laps pipeline (case :: cases) session = Lap.of pipeline case session ::
              laps pipeline cases ((Lap.of pipeline case session).onwards pipeline record) := by
            rw [laps, Lap.andThen, result]
          rcases ih (summary.add record) ((Lap.of pipeline case session).onwards pipeline record)
            with ⟨records, ⟨all, results⟩, ended⟩ |
              ⟨earlier, lap, fault, ⟨rest, fine, failed⟩, ended⟩
          · refine .inl ⟨record :: records, ⟨?_, ?_⟩, ended⟩
            · rw [unfolded, List.map_cons, all]
              rfl
            · rw [unfolded, List.map_cons, results, result, List.map_cons]
          · refine .inr
              ⟨Lap.of pipeline case session :: earlier, lap, fault, ⟨?_, ?_, failed⟩, ended⟩
            · rw [unfolded, rest, List.cons_append]
            · intro before member
              rcases List.mem_cons.mp member with rfl | later
              · exact ⟨record, result⟩
              · exact fine before later

end Acceptance.Run
