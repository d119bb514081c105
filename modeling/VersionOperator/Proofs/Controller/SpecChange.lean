import Mathlib.Data.List.Induction
import VersionOperator.Controller.SpecChange

namespace VersionOperator

variable {κ ε : Type} [DecidableEq κ] (key : DynaKube → κ)

def generationOf? (object : κ) : Except ε DynaKube → Option Int
  | .ok dk => if key dk = object then dk.metadata.generation else none
  | .error _ => none

def generationsOf (object : κ) (events : List (Except ε DynaKube)) : List Int :=
  events.filterMap (generationOf? key object)

/-- An event is news after others if it is an error, if it has no generation, and if its generation
is another one than its object had the last time, or the first. -/
def IsNews (before : List (Except ε DynaKube)) : Except ε DynaKube → Prop
  | .error _ => True
  | .ok dk =>
    dk.metadata.generation = none ∨
      dk.metadata.generation ≠ (generationsOf key (key dk) before).getLast?

instance (before : List (Except ε DynaKube)) (event : Except ε DynaKube) :
    Decidable (IsNews key before event) :=
  match event with
  | .error _ => inferInstanceAs (Decidable True)
  | .ok _ => inferInstanceAs (Decidable (_ ∨ _))

def news (events : List (Except ε DynaKube)) : List (Except ε DynaKube) :=
  (events.zipIdx.filter fun entry => IsNews key (events.take entry.2) entry.1).map Prod.fst

def remember (seen : Generations κ) : Except ε DynaKube → Generations κ
  | .ok dk => (seen.arrive (key dk) dk.metadata.generation).2
  | .error _ => seen

theorem Generations.isNew_arrive_iff {seen : Generations κ} {object : κ}
    {generation : Option Int} :
    (seen.arrive object generation).1 = true ↔
      generation = none ∨ generation ≠ seen.last? object := by
  cases generation with
  | none => exact iff_of_true rfl (.inl rfl)
  | some generation =>
    rw [arrive, decide_eq_true_eq, or_iff_right (Option.some_ne_none generation)]
    exact ne_comm

theorem last?_remember (seen : Generations κ) (event : Except ε DynaKube) (object : κ) :
    (remember key seen event).last? object =
      (generationOf? key object event).or (seen.last? object) := by
  cases event with
  | error error => rfl
  | ok dk =>
    rw [remember, generationOf?]
    cases dk.metadata.generation with
    | none => rw [ite_self, Option.none_or, Generations.arrive]
    | some generation =>
      rw [Generations.arrive]
      rcases Decidable.em (key dk = object) with rfl | hne
      · rw [if_pos rfl, Option.some_or, Generations.last?_record_self]
      · rw [if_neg hne, Option.none_or, Generations.last?_record_of_ne (Ne.symm hne)]

/-- The memory holds of each object the generation with which it came last. -/
theorem last?_foldl_remember (events : List (Except ε DynaKube)) (object : κ) :
    (events.foldl (remember key) []).last? object = (generationsOf key object events).getLast? := by
  induction events using List.reverseRecOn with
  | nil => rfl
  | append_singleton events event ih =>
    rw [List.foldl_append, List.foldl_cons, List.foldl_nil, last?_remember, ih, generationsOf,
      generationsOf, List.filterMap_append, List.getLast?_append]
    cases hevent : generationOf? key object event with
    | none => rw [List.filterMap_cons_none hevent, List.filterMap_nil, List.getLast?_nil]
    | some generation =>
      rw [List.filterMap_cons_some hevent, List.filterMap_nil, List.getLast?_singleton]

variable {key}

theorem specChanges_ok (seen : Generations κ) (dk : DynaKube) (rest : List (Except ε DynaKube)) :
    specChanges key seen (.ok dk :: rest) =
      if (seen.arrive (key dk) dk.metadata.generation).1 then
        .ok dk :: specChanges key (remember key seen (.ok dk : Except ε DynaKube)) rest
      else specChanges key (remember key seen (.ok dk : Except ε DynaKube)) rest :=
  rfl

theorem specChanges_cons (seen : Generations κ) (event : Except ε DynaKube)
    (rest : List (Except ε DynaKube)) :
    specChanges key seen (event :: rest) =
      specChanges key seen [event] ++ specChanges key (remember key seen event) rest := by
  cases event with
  | error error => rfl
  | ok dk =>
    rw [specChanges_ok, specChanges_ok]
    split
    · rfl
    · rfl

theorem specChanges_append (seen : Generations κ) (events later : List (Except ε DynaKube)) :
    specChanges key seen (events ++ later) =
      specChanges key seen events ++ specChanges key (events.foldl (remember key) seen) later := by
  induction events generalizing seen with
  | nil => rfl
  | cons event rest ih =>
    rw [List.cons_append, specChanges_cons, ih, ← List.append_assoc, ← specChanges_cons]
    rfl

theorem specChanges_single (before : List (Except ε DynaKube)) (event : Except ε DynaKube) :
    specChanges key (before.foldl (remember key) []) [event] =
      if IsNews key before event then [event] else [] := by
  cases event with
  | error error => rfl
  | ok dk =>
    have hnews : ((before.foldl (remember key) []).arrive (key dk) dk.metadata.generation).1 =
        true ↔ IsNews key before (.ok dk) := by
      rw [Generations.isNew_arrive_iff, last?_foldl_remember]
      rfl
    exact ite_cond_congr (propext hnews)

theorem specChanges_congr {seen seen' : Generations κ}
    (h : ∀ object, seen.last? object = seen'.last? object) (events : List (Except ε DynaKube)) :
    specChanges key seen events = specChanges key seen' events := by
  induction events generalizing seen seen' with
  | nil => rfl
  | cons event rest ih =>
    have hsingle : specChanges key seen [event] = specChanges key seen' [event] := by
      cases event with
      | error error => rfl
      | ok dk =>
        have hnew : (seen.arrive (key dk) dk.metadata.generation).1 =
            (seen'.arrive (key dk) dk.metadata.generation).1 := by
          rw [Bool.eq_iff_iff, Generations.isNew_arrive_iff, Generations.isNew_arrive_iff, h]
        rw [specChanges_ok, specChanges_ok, hnew]
        rfl
    have hrest : ∀ object, (remember key seen event).last? object =
        (remember key seen' event).last? object := by
      intro object
      rw [last?_remember, last?_remember, h]
    rw [specChanges_cons, specChanges_cons seen', hsingle, ih hrest]

theorem news_concat (events : List (Except ε DynaKube)) (event : Except ε DynaKube) :
    news key (events ++ [event]) =
      news key events ++ if IsNews key events event then [event] else [] := by
  -- Whether an event is news does not hang on those after it.
  have hbefore : (events.zipIdx.filter fun entry =>
        IsNews key ((events ++ [event]).take entry.2) entry.1) =
      events.zipIdx.filter fun entry => IsNews key (events.take entry.2) entry.1 := by
    apply List.filter_congr
    intro entry hmem
    have hplace : entry.2 ≤ events.length := Nat.le_of_lt (List.mem_zipIdx' hmem).1
    rw [List.take_append_of_le_length hplace]
  have hlast : ([(event, events.length)].filter fun entry =>
        IsNews key ((events ++ [event]).take entry.2) entry.1).map Prod.fst =
      if IsNews key events event then [event] else [] := by
    rcases Decidable.em (IsNews key events event) with h | h
    · simp [h]
    · simp [h]
  have hzip : (events ++ [event]).zipIdx = events.zipIdx ++ [(event, events.length)] := by
    rw [List.zipIdx_append, Nat.zero_add]
    rfl
  rw [news, hzip, List.filter_append, List.map_append, hbefore, hlast, ← news]

theorem specChanges_eq_news (events : List (Except ε DynaKube)) :
    specChanges key [] events = news key events := by
  induction events using List.reverseRecOn with
  | nil => rfl
  | append_singleton events event ih =>
    rw [specChanges_append, specChanges_single, ih, news_concat]

theorem news_sublist (events : List (Except ε DynaKube)) : (news key events).Sublist events := by
  have hall : events.zipIdx.map Prod.fst = events := List.zipIdx_map_fst 0 events
  have hsome := (List.filter_sublist (l := events.zipIdx)
    (p := fun entry => IsNews key (events.take entry.2) entry.1)).map Prod.fst
  rw [hall] at hsome
  exact hsome

theorem specChanges_drop {before : List (Except ε DynaKube)} {dk : DynaKube} {generation : Int}
    (hgeneration : dk.metadata.generation = some generation)
    (hlast : (generationsOf key (key dk) before).getLast? = some generation)
    (after : List (Except ε DynaKube)) :
    specChanges key [] (before ++ .ok dk :: after) = specChanges key [] (before ++ after) := by
  have hnot : ¬ IsNews key before (.ok dk : Except ε DynaKube) := by
    rintro (hnone | hother)
    · exact absurd (hgeneration.symm.trans hnone) nofun
    · exact hother (hgeneration.trans hlast.symm)
  -- What is remembered of an object may be written anew, but it stays what it was.
  have hsame : ∀ object,
      (remember key (before.foldl (remember key) []) (.ok dk : Except ε DynaKube)).last? object =
        (before.foldl (remember key) []).last? object := by
    intro object
    rw [last?_remember, generationOf?]
    rcases Decidable.em (key dk = object) with rfl | hne
    · rw [if_pos rfl, hgeneration, last?_foldl_remember, hlast, Option.some_or]
    · rw [if_neg hne, Option.none_or]
  rw [specChanges_append, specChanges_cons, specChanges_single, if_neg hnot, List.nil_append,
    specChanges_congr hsame, ← specChanges_append]

theorem getLast?_generationsOf {before between : List (Except ε DynaKube)} {dk : DynaKube}
    {generation : Int} (hgeneration : dk.metadata.generation = some generation)
    (hbetween : ∀ other, .ok other ∈ between → key other = key dk →
      other.metadata.generation = some generation) :
    (generationsOf key (key dk) (before ++ .ok dk :: between)).getLast? = some generation := by
  have hdk : generationOf? key (key dk) (.ok dk : Except ε DynaKube) = some generation := by
    rw [generationOf?, if_pos rfl, hgeneration]
  have hlater : ∀ g ∈ generationsOf key (key dk) between, g = generation := by
    intro g hmem
    obtain ⟨event, hevent, hg⟩ := List.mem_filterMap.mp hmem
    cases event with
    | error error => exact absurd hg nofun
    | ok other =>
      rw [generationOf?] at hg
      split at hg
      · rename_i hkey
        exact Option.some.inj (hg.symm.trans (hbetween other hevent hkey))
      · exact absurd hg nofun
  have hsplit : generationsOf key (key dk) (before ++ .ok dk :: between) =
      generationsOf key (key dk) before ++ generation :: generationsOf key (key dk) between := by
    rw [generationsOf, List.filterMap_append, List.filterMap_cons_some hdk]
    rfl
  rw [hsplit, List.getLast?_append]
  cases hlast : (generation :: generationsOf key (key dk) between).getLast? with
  | none => exact absurd (List.getLast?_eq_none_iff.mp hlast) (List.cons_ne_nil _ _)
  | some g =>
    rcases List.mem_cons.mp (List.mem_of_getLast? hlast) with rfl | hmem
    · rfl
    · rw [hlater g hmem]
      rfl

/-- Whatever tells objects apart, the events that pass are those that are news, in the order in
which they came. So a write that leaves the generation of an object as it is never passes and
changes nothing for the events after it, whatever comes of other objects in between. -/
theorem specChanges_pass_news (key : DynaKube → κ) (events : List (Except ε DynaKube)) :
    specChanges key [] events = news key events ∧
    (specChanges key [] events).Sublist events ∧
    ∀ (before between after : List (Except ε DynaKube)) (dk written : DynaKube),
      key written = key dk → written.metadata.generation = dk.metadata.generation →
      dk.metadata.generation ≠ none →
      (∀ other, .ok other ∈ between → key other = key dk →
        other.metadata.generation = dk.metadata.generation) →
      specChanges key [] (before ++ .ok dk :: between ++ .ok written :: after) =
        specChanges key [] (before ++ .ok dk :: between ++ after) := by
  refine ⟨specChanges_eq_news events, ?_, ?_⟩
  · rw [specChanges_eq_news]
    exact news_sublist events
  · intro before between after dk written hkey hwritten hsome hbetween
    obtain ⟨generation, hgeneration⟩ := Option.ne_none_iff_exists'.mp hsome
    rw [hgeneration] at hwritten hbetween
    apply specChanges_drop hwritten
    rw [hkey]
    exact getLast?_generationsOf hgeneration hbetween

/-- Objects are told apart by namespace, name and uid. The state of one is written after an error
and two events of another one, one of them without a generation; then its specification changes. -/
theorem specChanges_pass_news_state_written :
    let key (dk : DynaKube) := (dk.metadata.inNamespace, dk.metadata.name, dk.metadata.uid)
    let object (name : String) (generation : Option Int) (status : Option DynaKubeStatus) :
        DynaKube :=
      { metadata :=
          { name := some name, inNamespace := some "dynatrace", generation, uid := some "u1" }
        spec := { apiUrl := "https://tenant.example/api" }
        status }
    let dk := object "dynakube" (some 1) none
    let written := object "dynakube" (some 1) (some {})
    let between : List (Except String DynaKube) :=
      [.ok (object "other" (some 1) none), .error "gone", .ok (object "other" none none)]
    let after : List (Except String DynaKube) := [.ok (object "dynakube" (some 2) (some {}))]
    key written = key dk ∧ written.metadata.generation = dk.metadata.generation ∧
      dk.metadata.generation ≠ none ∧
      (∀ other, .ok other ∈ between → key other = key dk →
        other.metadata.generation = dk.metadata.generation) ∧
      specChanges key [] (.ok dk :: between ++ .ok written :: after) =
        .ok dk :: between ++ after := by
  intro key object dk written between after
  have hothers : ∀ other, .ok other ∈ between → key other = key dk →
      other.metadata.generation = dk.metadata.generation := by
    intro other hmem hkey
    have hname : other.metadata.name = some "other" := by
      rcases List.mem_cons.mp hmem with heq | hmem
      · rw [Except.ok.inj heq]
      rcases List.mem_cons.mp hmem with heq | hmem
      · exact absurd heq nofun
      · rw [Except.ok.inj (List.mem_singleton.mp hmem)]
    have hname' : other.metadata.name = some "dynakube" := congrArg (fun k => k.2.1) hkey
    exact absurd (hname.symm.trans hname') (by decide)
  have hdrop := (specChanges_pass_news key (.ok dk :: between ++ .ok written :: after)).2.2 []
    between after dk written rfl rfl nofun hothers
  refine ⟨rfl, rfl, nofun, hothers, ?_⟩
  exact hdrop

end VersionOperator
