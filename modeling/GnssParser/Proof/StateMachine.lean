import GnssParser.Model.StateMachine

/-!
# Isolation of state machines

Instances of different definitions stay apart exactly while no registered identifier is a prefix of
another one.
-/

namespace GnssParser
open Text

/-! ## Runs -/

/-- The calls of the registry, with the readings of the clock. -/
inductive RegistryCall where
  | registerDefinition (definition : StateMachineDefinition)
  | reportEvent (now : Int) (definitionId instanceKey detail : List Char)
  | setActive (now : Int) (definitionId instanceKey detail : List Char)
  | setDeactive (now : Int) (definitionId instanceKey detail : List Char)
  | tick (now : Int)

/-- The definition and the key a call is about. -/
def RegistryCall.pair : RegistryCall → Option (List Char × List Char)
  | .registerDefinition definition => some (definition.id, [])
  | .reportEvent _ definitionId instanceKey _ => some (definitionId, instanceKey)
  | .setActive _ definitionId instanceKey _ => some (definitionId, instanceKey)
  | .setDeactive _ definitionId instanceKey _ => some (definitionId, instanceKey)
  | .tick _ => none

namespace StateMachineRegistry

/-- A call that throws leaves the registry as it is. -/
def step (r : StateMachineRegistry) : RegistryCall → StateMachineRegistry
  | .registerDefinition definition => (r.registerDefinition definition).toOption.getD r
  | .reportEvent now definitionId instanceKey detail =>
      ((r.reportEvent now definitionId instanceKey detail).toOption.map Prod.snd).getD r
  | .setActive now definitionId instanceKey detail =>
      ((r.setActive now definitionId instanceKey detail).toOption.map Prod.snd).getD r
  | .setDeactive now definitionId instanceKey detail =>
      ((r.setDeactive now definitionId instanceKey detail).toOption.map Prod.snd).getD r
  | .tick now => (r.tick now).2

def run (calls : List RegistryCall) : StateMachineRegistry := calls.foldl step {}

def instance? (r : StateMachineRegistry) (p : List Char × List Char) : Option StateMachineInstance :=
  r.instances.get? (composeInstanceId p.1 p.2)

def Registered (r : StateMachineRegistry) (id : List Char) : Prop := (r.definitions.get? id).isSome

theorem run_append (before : List RegistryCall) (call : RegistryCall) :
    run (before ++ [call]) = (run before).step call := by
  rw [run, List.foldl_append]
  rfl

/-! ## Steps -/

variable {r : StateMachineRegistry}

@[simp] theorem store_definitions (id : List Char) (inst : StateMachineInstance) :
    (r.store id inst).definitions = r.definitions := rfl

theorem ensureInstanceLocked_registered {id : List Char} (registered : r.Registered id)
    (key : List Char) : r.ensureInstanceLocked id key =
      .ok (composeInstanceId id key, (r.instances.get? (composeInstanceId id key)).getD {}) := by
  obtain ⟨d, found⟩ := Option.isSome_iff_exists.mp registered
  rw [ensureInstanceLocked, found]

theorem ensureInstanceLocked_unknown {id : List Char} (unknown : ¬ r.Registered id)
    (key : List Char) : r.ensureInstanceLocked id key = .error .invalidArgument := by
  have none : r.definitions.get? id = none := by
    rwa [Registered, Option.not_isSome_iff_eq_none] at unknown
  rw [ensureInstanceLocked, none]

/-- What a call other than a registration or a tick does. -/
theorem step_event {call : RegistryCall} {p : List Char × List Char} (pair : call.pair = some p)
    (event : ∀ definition, call ≠ .registerDefinition definition) :
    r.step call = r ∨
      r.Registered p.1 ∧ ∃ inst, r.step call = r.store (composeInstanceId p.1 p.2) inst := by
  by_cases registered : r.Registered p.1
  · refine .inr ⟨registered, ?_⟩
    cases call with
    | registerDefinition definition => exact absurd rfl (event definition)
    | reportEvent now id key detail =>
        cases pair
        rw [step, reportEvent, ensureInstanceLocked_registered registered]
        exact ⟨_, rfl⟩
    | setActive now id key detail =>
        cases pair
        rw [step, setActive, ensureInstanceLocked_registered registered]
        exact ⟨_, rfl⟩
    | setDeactive now id key detail =>
        cases pair
        rw [step, setDeactive, ensureInstanceLocked_registered registered]
        exact ⟨_, rfl⟩
    | tick now => cases pair
  · refine .inl ?_
    cases call with
    | registerDefinition definition => exact absurd rfl (event definition)
    | reportEvent now id key detail =>
        cases pair
        rw [step, reportEvent, ensureInstanceLocked_unknown registered]
        rfl
    | setActive now id key detail =>
        cases pair
        rw [step, setActive, ensureInstanceLocked_unknown registered]
        rfl
    | setDeactive now id key detail =>
        cases pair
        rw [step, setDeactive, ensureInstanceLocked_unknown registered]
        rfl
    | tick now => cases pair

theorem step_register (definition : StateMachineDefinition) :
    definition.id = [] ∧ r.step (.registerDefinition definition) = r ∨
      definition.id ≠ [] ∧ ∃ stored, stored.id = definition.id ∧
        r.step (.registerDefinition definition) =
          ({ r with definitions := r.definitions.set definition.id stored } :
              StateMachineRegistry).store definition.id
            ((r.instances.get? definition.id).getD {}) := by
  by_cases empty : definition.id = []
  · refine .inl ⟨empty, ?_⟩
    rw [step, registerDefinition, if_pos empty]
    rfl
  · refine .inr ⟨empty, ?_⟩
    let stored := if definition.displayName = [] then
      { definition with displayName := definition.id } else definition
    have same : stored.id = definition.id := by
      dsimp only [stored]
      split <;> rfl
    refine ⟨stored, same, ?_⟩
    have known : ({ r with definitions := r.definitions.set stored.id stored } :
        StateMachineRegistry).Registered stored.id := by
      rw [Registered, OrderedMap.get?_set_self]
      rfl
    have ensured := ensureInstanceLocked_registered known []
    rw [← same, step, registerDefinition, if_neg empty]
    change (Except.toOption (ensureInstanceLocked _ stored.id [] >>= _)).getD r = _
    rw [ensured]
    rfl

/-! ## Ticks -/

/-- What one definition does to an instance in a tick. -/
def expireBy (now : Int) (instanceId : List Char) (inst : StateMachineInstance)
    (entry : List Char × StateMachineDefinition) : StateMachineInstance :=
  if entry.2.deactivateTimeout ≤ 0 then inst else (expire now entry.2 instanceId inst).2

theorem tick_definitions (now : Int) : (r.tick now).2.definitions = r.definitions := by
  rw [tick]
  suffices kept : ∀ (list : List (List Char × StateMachineDefinition)) (changed : Bool)
      (r' : StateMachineRegistry), (list.foldl (fun (x : Bool × StateMachineRegistry) entry =>
        if entry.2.deactivateTimeout ≤ 0 then (x.1, x.2)
        else (x.1 || x.2.instances.entries.any fun e => (expire now entry.2 e.1 e.2).1,
          { x.2 with instances := x.2.instances.mapValues fun id inst =>
            (expire now entry.2 id inst).2 })) (changed, r')).2.definitions = r'.definitions from
    kept _ _ _
  intro list
  induction list with
  | nil => exact fun _ _ => rfl
  | cons entry list ih =>
      intro changed r'
      rw [List.foldl_cons]
      split
      · exact ih _ _
      · exact ih _ _

theorem tick_instances (now : Int) (id : List Char) :
    (r.tick now).2.instances.get? id =
      (r.instances.get? id).map fun inst => r.definitions.entries.foldl (expireBy now id) inst := by
  rw [tick]
  suffices run : ∀ (list : List (List Char × StateMachineDefinition)) (changed : Bool)
      (r' : StateMachineRegistry), (list.foldl (fun (x : Bool × StateMachineRegistry) entry =>
        if entry.2.deactivateTimeout ≤ 0 then (x.1, x.2)
        else (x.1 || x.2.instances.entries.any fun e => (expire now entry.2 e.1 e.2).1,
          { x.2 with instances := x.2.instances.mapValues fun id inst =>
            (expire now entry.2 id inst).2 })) (changed, r')).2.instances.get? id =
      (r'.instances.get? id).map fun inst => list.foldl (expireBy now id) inst from run _ _ _
  intro list
  induction list with
  | nil => intro changed r'; simp
  | cons entry list ih =>
      intro changed r'
      rw [List.foldl_cons]
      by_cases none : entry.2.deactivateTimeout ≤ 0
      · rw [if_pos none, ih]
        simp only [List.foldl_cons, expireBy, if_pos none]
      · rw [if_neg none, ih, OrderedMap.get?_mapValues, Option.map_map]
        simp only [List.foldl_cons, expireBy, if_neg none]
        rfl

/-! ## Reached states -/

/-- Every instance belongs to a registered definition, which has the instance without a key. -/
structure Reached (r : StateMachineRegistry) : Prop where
  ids : ∀ {id definition}, r.definitions.get? id = some definition → definition.id = id
  owned : ∀ {id inst}, r.instances.get? id = some inst →
    ∃ definitionId key, r.Registered definitionId ∧ id = composeInstanceId definitionId key
  base : ∀ {id}, r.Registered id → (r.instances.get? id).isSome

theorem Reached.store (reached : Reached r) {p : List Char × List Char} (registered : r.Registered p.1)
    (inst : StateMachineInstance) : Reached (r.store (composeInstanceId p.1 p.2) inst) where
  ids := reached.ids
  owned {id other} found := by
    by_cases same : id = composeInstanceId p.1 p.2
    · exact ⟨p.1, p.2, registered, same⟩
    · rw [StateMachineRegistry.store, OrderedMap.get?_set_other _ same] at found
      exact reached.owned found
  base {id} known := by
    by_cases same : id = composeInstanceId p.1 p.2
    · rw [same, StateMachineRegistry.store, OrderedMap.get?_set_self]
      rfl
    · rw [StateMachineRegistry.store, OrderedMap.get?_set_other _ same]
      exact reached.base known

theorem registered_set {id other : List Char} (definition : StateMachineDefinition) :
    ({ r with definitions := r.definitions.set id definition } : StateMachineRegistry).Registered other ↔
      other = id ∨ r.Registered other := by
  by_cases same : other = id
  · subst same
    simp [Registered, OrderedMap.get?_set_self]
  · simp [Registered, OrderedMap.get?_set_other _ same, same]

theorem reached_step (reached : Reached r) (call : RegistryCall) : Reached (r.step call) := by
  by_cases ticks : ∃ now, call = .tick now
  · obtain ⟨now, rfl⟩ := ticks
    have same : ∀ id, (r.tick now).2.Registered id ↔ r.Registered id := fun id => by
      rw [Registered, tick_definitions, Registered]
    refine ⟨fun found => reached.ids (by rwa [step, tick_definitions] at found), fun found => ?_,
      fun known => ?_⟩
    · rw [step, tick_instances, Option.map_eq_some_iff] at found
      obtain ⟨inst, found, -⟩ := found
      obtain ⟨definitionId, key, registered, id⟩ := reached.owned found
      exact ⟨definitionId, key, (same _).mpr registered, id⟩
    · rw [step, tick_instances, Option.isSome_map]
      exact reached.base ((same _).mp known)
  by_cases registers : ∃ definition, call = .registerDefinition definition
  · obtain ⟨definition, rfl⟩ := registers
    rcases step_register (r := r) definition with ⟨-, kept⟩ | ⟨-, stored, id, stepped⟩
    · rwa [kept]
    rw [stepped]
    have registered := fun other => @registered_set r definition.id other stored
    refine ⟨fun {key found} here => ?_, fun {key found} here => ?_, fun {key} known => ?_⟩
    · rw [store_definitions] at here
      by_cases same : key = definition.id
      · rw [same, OrderedMap.get?_set_self] at here
        cases here
        rw [id, same]
      · rw [OrderedMap.get?_set_other _ same] at here
        exact reached.ids here
    · by_cases same : key = definition.id
      · exact ⟨definition.id, [], (registered _).mpr (.inl rfl), same⟩
      · rw [StateMachineRegistry.store, OrderedMap.get?_set_other _ same] at here
        obtain ⟨definitionId, other, known, compose⟩ := reached.owned here
        exact ⟨definitionId, other, (registered _).mpr (.inr known), compose⟩
    · by_cases same : key = definition.id
      · rw [same, StateMachineRegistry.store, OrderedMap.get?_set_self]
        rfl
      · rw [StateMachineRegistry.store, OrderedMap.get?_set_other _ same]
        exact reached.base (((registered key).mp known).resolve_left same)
  · obtain ⟨p, pair⟩ : ∃ p, call.pair = some p := by
      cases call with
      | tick now => exact absurd ⟨now, rfl⟩ ticks
      | _ => exact ⟨_, rfl⟩
    rcases step_event (r := r) pair fun definition same => registers ⟨definition, same⟩ with
      kept | ⟨registered, inst, stored⟩
    · rwa [kept]
    · rw [stored]
      exact reached.store registered inst

theorem reached_run (calls : List RegistryCall) : Reached (run calls) := by
  induction calls using List.reverseRecOn with
  | nil =>
      refine ⟨fun found => ?_, fun found => ?_, fun known => ?_⟩
      · cases found
      · cases found
      · cases known
  | append_singleton calls call ih =>
      rw [run_append]
      exact reached_step ih call

/-! ## Registered identifiers -/

def registeredIds (calls : List RegistryCall) : List (List Char) :=
  calls.filterMap fun
    | .registerDefinition definition => if definition.id = [] then none else some definition.id
    | _ => none

theorem registeredIds_append (before after : List RegistryCall) :
    registeredIds (before ++ after) = registeredIds before ++ registeredIds after :=
  List.filterMap_append

theorem step_definitions {call : RegistryCall}
    (event : ∀ definition, call ≠ .registerDefinition definition) :
    (r.step call).definitions = r.definitions := by
  cases pair : call.pair with
  | none =>
      cases call with
      | tick now => exact tick_definitions now
      | _ => cases pair
  | some p =>
      rcases step_event (r := r) pair event with kept | ⟨-, inst, stored⟩
      · rw [kept]
      · rw [stored, store_definitions]

theorem registeredIds_event {call : RegistryCall}
    (event : ∀ definition, call ≠ .registerDefinition definition) : registeredIds [call] = [] := by
  cases call with
  | registerDefinition definition => exact absurd rfl (event definition)
  | _ => rfl

theorem registered_run (calls : List RegistryCall) (id : List Char) :
    (run calls).Registered id ↔ id ∈ registeredIds calls := by
  induction calls using List.reverseRecOn with
  | nil => simp [run, Registered, registeredIds, OrderedMap.get?_empty]
  | append_singleton calls call ih =>
      rw [run_append, registeredIds_append, List.mem_append, ← ih]
      by_cases registers : ∃ definition, call = .registerDefinition definition
      · obtain ⟨definition, rfl⟩ := registers
        rcases step_register (r := run calls) definition with
          ⟨empty, kept⟩ | ⟨nonempty, stored, -, stepped⟩
        · rw [kept]
          simp [registeredIds, empty]
        · rw [stepped, Registered, store_definitions]
          refine (registered_set stored).trans ?_
          simp [registeredIds, nonempty, or_comm]
      · have event : ∀ definition, call ≠ .registerDefinition definition :=
          fun definition same => registers ⟨definition, same⟩
        rw [Registered, step_definitions event, registeredIds_event event, ← Registered]
        simp

/-- No identifier is a proper prefix of another one. -/
def PrefixFree (ids : List (List Char)) : Prop := ∀ a ∈ ids, ∀ b ∈ ids, a <+: b → a = b

theorem prefix_compose (id key : List Char) : id <+: composeInstanceId id key := by
  rw [composeInstanceId]
  split
  · exact List.prefix_refl id
  · exact List.prefix_append _ _

theorem PrefixFree.owner {ids : List (List Char)} (free : PrefixFree ids) {a b key : List Char}
    (first : a ∈ ids) (second : b ∈ ids) (inside : a <+: composeInstanceId b key) : a = b := by
  rcases List.prefix_or_prefix_of_prefix inside (prefix_compose b key) with less | less
  · exact free a first b second less
  · exact (free b second a first less).symm

theorem composeInstanceId_key {id key key' : List Char}
    (same : composeInstanceId id key = composeInstanceId id key') : key = key' := by
  rw [composeInstanceId, composeInstanceId] at same
  split_ifs at same with empty empty' empty'
  · rw [empty, empty']
  · exact absurd (List.append_right_eq_self.mp same.symm) (List.cons_ne_nil _ _)
  · exact absurd (List.append_right_eq_self.mp same) (List.cons_ne_nil _ _)
  · exact (List.cons.inj (List.append_cancel_left same)).2

theorem PrefixFree.compose_ne {ids : List (List Char)} (free : PrefixFree ids)
    {p q : List Char × List Char} (first : p.1 ∈ ids) (second : q.1 ∈ ids) (ne : q ≠ p) :
    composeInstanceId q.1 q.2 ≠ composeInstanceId p.1 p.2 := by
  intro same
  have id : q.1 = p.1 := free.owner second first (same ▸ prefix_compose q.1 q.2)
  rw [id] at same
  exact ne (Prod.ext id (composeInstanceId_key same))

theorem printedKey_compose (definition : StateMachineDefinition) (key : List Char) :
    printedKey definition (composeInstanceId definition.id key) =
      if key = [] then none else some key := by
  rw [printedKey, composeInstanceId]
  split
  · rw [if_neg (by omega)]
  · next some =>
      have long := List.length_pos_iff.mpr some
      rw [if_pos (by rw [List.length_append, List.length_cons]; omega), ← List.drop_drop,
        List.drop_left, List.drop_one, List.tail_cons]

/-! ## Isolation -/

/-- The instance of a pair, with its definition. -/
structure Holds (r : StateMachineRegistry) (p : List Char × List Char)
    (definition : StateMachineDefinition) (inst : StateMachineInstance) : Prop where
  definition : r.definitions.get? p.1 = some definition
  inst : r.instance? p = some inst

/-- `tick` at `now` is to end the instance. -/
def Due (now : Int) (definition : StateMachineDefinition) (inst : StateMachineInstance) : Prop :=
  0 < definition.deactivateTimeout.toInt ∧
    now - inst.lastEventTime ≥ definition.deactivateTimeout.toInt * 1000000

def maxTimeout : Int64 := 9223372036854

/-- No state of the run has an active instance whose timeout overflows as nanoseconds. -/
def TimeoutsFit (calls : List RegistryCall) : Prop :=
  ∀ before, before <+: calls → ∀ p definition inst, (run before).Holds p definition inst →
    inst.state = .active → definition.deactivateTimeout ≤ maxTimeout

/-- In every state of the run, and for every call of it. -/
structure Isolated (calls : List RegistryCall) : Prop where
  apart : ∀ before call after, calls = before ++ call :: after → ∀ p q, call.pair = some p → q ≠ p →
    (run (before ++ [call])).Registered q.1 →
      (run (before ++ [call])).instance? q = (run before).instance? q
  due : ∀ before, before <+: calls → ∀ now p definition inst, (run before).Holds p definition inst →
    inst.state = .active → ∃ after, ((run before).tick now).2.instance? p = some after ∧
      (after.state = .deactive ↔ Due now definition inst)
  listed : ∀ before, before <+: calls → ∀ p definition inst, (run before).Holds p definition inst →
    ((run before).statusEntries.filter fun e => e.2.1 = composeInstanceId p.1 p.2) =
        [(definition, composeInstanceId p.1 p.2, inst)] ∧
      printedKey definition (composeInstanceId p.1 p.2) = if p.2 = [] then none else some p.2
  complete : ∀ before, before <+: calls → ∀ id inst, (run before).instances.get? id = some inst →
    ∃ p definition, id = composeInstanceId p.1 p.2 ∧ (run before).Holds p definition inst

section
variable {ids : List (List Char)} (free : PrefixFree ids) (reached : Reached r)
  (known : ∀ id, r.Registered id ↔ id ∈ ids)
include free reached known

theorem prefix_owner {p : List Char × List Char} {definition : StateMachineDefinition}
    {inst : StateMachineInstance} (holds : r.Holds p definition inst)
    {entry : List Char × StateMachineDefinition} (mem : entry ∈ r.definitions.entries)
    (other : entry ≠ (p.1, definition)) :
    ¬ entry.2.id.isPrefixOf (composeInstanceId p.1 p.2) := by
  intro inside
  obtain ⟨key, found⟩ := entry
  have found' := OrderedMap.mem_entries.mp mem
  have id := reached.ids found'
  have own : key = p.1 := by
    refine @PrefixFree.owner ids free _ _ p.2 ((known _).mp ?_) ((known _).mp ?_) ?_
    · rw [Registered, found']; rfl
    · rw [Registered, holds.definition]; rfl
    · rw [← id]
      exact List.isPrefixOf_iff_prefix.mp inside
  rw [own, holds.definition] at found'
  cases found'
  exact other (Prod.ext own rfl)

theorem tick_own (now : Int) {p : List Char × List Char} {definition : StateMachineDefinition}
    {inst : StateMachineInstance} (holds : r.Holds p definition inst) :
    (r.tick now).2.instance? p =
      some (expireBy now (composeInstanceId p.1 p.2) inst (p.1, definition)) := by
  have mem := OrderedMap.mem_entries.mpr holds.definition
  have found : r.instances.get? (composeInstanceId p.1 p.2) = some inst := holds.inst
  rw [instance?, tick_instances, found, Option.map_some]
  congr 1
  refine OrderedMap.foldl_single mem r.definitions.nodup ?_ inst
  intro entry inside other x
  rw [expireBy, expire, if_pos (prefix_owner free reached known holds inside other)]
  split <;> rfl

theorem listed_own {p : List Char × List Char} {definition : StateMachineDefinition}
    {inst : StateMachineInstance} (holds : r.Holds p definition inst) :
    (r.statusEntries.filter fun e => e.2.1 = composeInstanceId p.1 p.2) =
      [(definition, composeInstanceId p.1 p.2, inst)] := by
  have mem := OrderedMap.mem_entries.mpr holds.definition
  have found : r.instances.get? (composeInstanceId p.1 p.2) = some inst := holds.inst
  have inside : definition.id.isPrefixOf (composeInstanceId p.1 p.2) := by
    rw [reached.ids holds.definition]
    exact List.isPrefixOf_iff_prefix.mpr (prefix_compose p.1 p.2)
  rw [statusEntries, List.filter_flatMap, OrderedMap.flatMap_single mem r.definitions.nodup]
  · rw [List.filter_map, List.filter_filter]
    have single := OrderedMap.filter_key (m := r.instances) (k := composeInstanceId p.1 p.2)
    have own : (r.instances.entries.filter fun e =>
        decide (e.1 = composeInstanceId p.1 p.2) && definition.id.isPrefixOf e.1) =
        [(composeInstanceId p.1 p.2, inst)] := by
      rw [found] at single
      refine (List.filter_congr fun e _ => ?_).trans single
      by_cases same : e.1 = composeInstanceId p.1 p.2
      · simp [same, inside]
      · simp [same]
    exact congrArg _ own
  · intro entry other ne
    rw [List.filter_map, List.filter_filter, List.map_eq_nil_iff, List.filter_eq_nil_iff]
    intro e _ both
    have foreign := prefix_owner free reached known holds other ne
    simp only [Function.comp, Bool.and_eq_true, decide_eq_true_eq] at both
    exact foreign (both.1 ▸ both.2)

end

theorem nanoseconds_fit {timeout : Int64} (pos : 0 < timeout) (fits : timeout ≤ maxTimeout) :
    (nanoseconds timeout).toInt = timeout.toInt * 1000000 := by
  rw [Int64.lt_iff_toInt_lt, show (0 : Int64).toInt = 0 from rfl] at pos
  rw [Int64.le_iff_toInt_le, show maxTimeout.toInt = 9223372036854 from rfl] at fits
  rw [nanoseconds, Int64.toInt_mul, show (1000000 : Int64).toInt = 1000000 from rfl]
  exact Int.bmod_eq_of_le (by omega) (by omega)

theorem nanoseconds_overflow {timeout : Int64} (long : ¬ timeout ≤ maxTimeout) :
    (nanoseconds timeout).toInt < timeout.toInt * 1000000 := by
  rw [Int64.le_iff_toInt_le, show maxTimeout.toInt = 9223372036854 from rfl] at long
  have upper : (nanoseconds timeout).toInt < 2 ^ 63 := Int64.toInt_lt _
  omega

/-- The timeout that `expire` compares with is the converted one. -/
theorem expireBy_own (now : Int) {p : List Char × List Char} {definition : StateMachineDefinition}
    (id : definition.id = p.1) {inst : StateMachineInstance} (active : inst.state = .active) :
    (expireBy now (composeInstanceId p.1 p.2) inst (p.1, definition)).state = .deactive ↔
      0 < definition.deactivateTimeout ∧
        now - inst.lastEventTime ≥ (nanoseconds definition.deactivateTimeout).toInt := by
  have inside : definition.id.isPrefixOf (composeInstanceId p.1 p.2) := by
    rw [id]
    exact List.isPrefixOf_iff_prefix.mpr (prefix_compose p.1 p.2)
  rw [expireBy]
  by_cases disabled : definition.deactivateTimeout ≤ 0
  · rw [if_pos disabled, active]
    simp [disabled]
  rw [if_neg disabled, expire, if_neg (not_not.mpr inside), if_neg (not_not.mpr active)]
  by_cases early : now - inst.lastEventTime < (nanoseconds definition.deactivateTimeout).toInt
  · rw [if_pos early, active]
    simp [early]
  · rw [if_neg early, setStateLocked]
    simp [Int64.not_le.mp disabled, not_lt.mp early]

theorem due_iff {now : Int} {definition : StateMachineDefinition} {inst : StateMachineInstance}
    (fits : definition.deactivateTimeout ≤ maxTimeout) :
    (0 < definition.deactivateTimeout ∧
        now - inst.lastEventTime ≥ (nanoseconds definition.deactivateTimeout).toInt) ↔
      Due now definition inst := by
  have sign : 0 < definition.deactivateTimeout ↔ 0 < definition.deactivateTimeout.toInt :=
    Int64.lt_iff_toInt_lt
  rw [Due, ← sign]
  refine and_congr_right fun pos => ?_
  rw [nanoseconds_fit pos fits]

theorem step_other {calls : List RegistryCall} (free : PrefixFree (registeredIds calls))
    {before after : List RegistryCall} {call : RegistryCall} (order : calls = before ++ call :: after)
    {p q : List Char × List Char} (pair : call.pair = some p) (ne : q ≠ p)
    (registered : (run (before ++ [call])).Registered q.1) :
    (run (before ++ [call])).instance? q = (run before).instance? q := by
  have inside : ∀ id, (run (before ++ [call])).Registered id → id ∈ registeredIds calls := by
    intro id known
    have here := (registered_run _ id).mp known
    rw [order, List.append_cons, registeredIds_append]
    exact List.mem_append_left _ here
  by_cases registers : ∃ definition, call = .registerDefinition definition
  · obtain ⟨definition, rfl⟩ := registers
    cases pair
    rw [run_append]
    rcases step_register (r := run before) definition with ⟨-, kept⟩ | ⟨-, stored, -, stepped⟩
    · rw [kept]
    · have own : (run (before ++ [.registerDefinition definition])).Registered definition.id := by
        rw [run_append, stepped, Registered, store_definitions]
        exact (registered_set stored).mpr (.inl rfl)
      have other : composeInstanceId q.1 q.2 ≠ definition.id :=
        free.compose_ne (p := (definition.id, [])) (inside _ own) (inside _ registered) ne
      rw [stepped, instance?, store, OrderedMap.get?_set_other _ other, instance?]
  · rw [run_append]
    rcases step_event (r := run before) pair fun definition same => registers ⟨definition, same⟩ with
      kept | ⟨own, inst, stored⟩
    · rw [kept]
    · have known : (run (before ++ [call])).Registered p.1 := by
        rwa [run_append, stored, Registered, store_definitions]
      have other := free.compose_ne (inside _ known) (inside _ registered) ne
      rw [stored, instance?, store, OrderedMap.get?_set_other _ other, instance?]

theorem PrefixFree.earlier {calls before : List RegistryCall}
    (free : PrefixFree (registeredIds calls)) (inside : before <+: calls) :
    PrefixFree (registeredIds before) := by
  obtain ⟨after, rfl⟩ := inside
  intro a first b second
  rw [registeredIds_append] at free
  exact free a (List.mem_append_left _ first) b (List.mem_append_left _ second)

theorem isolated_of_prefixFree {calls : List RegistryCall}
    (free : PrefixFree (registeredIds calls)) (fits : TimeoutsFit calls) : Isolated calls := by
  refine ⟨fun before call after order p q pair ne registered =>
    step_other free order pair ne registered, ?_, ?_, ?_⟩
  · intro before inside now p definition inst holds active
    refine ⟨_, tick_own (free.earlier inside) (reached_run before) (registered_run before) now holds,
      ?_⟩
    rw [expireBy_own now ((reached_run before).ids holds.definition) active]
    exact due_iff (fits before inside p definition inst holds active)
  · intro before inside p definition inst holds
    refine ⟨listed_own (free.earlier inside) (reached_run before) (registered_run before) holds, ?_⟩
    rw [← (reached_run before).ids holds.definition]
    exact printedKey_compose definition p.2
  · intro before _ id inst found
    obtain ⟨definitionId, key, registered, rfl⟩ := (reached_run before).owned found
    obtain ⟨definition, known⟩ := Option.isSome_iff_exists.mp registered
    exact ⟨(definitionId, key), definition, rfl, known, found⟩

theorem Isolated.prefixFree {calls : List RegistryCall} (isolated : Isolated calls) :
    PrefixFree (registeredIds calls) := by
  intro a first b second inside
  have reached := reached_run calls
  obtain ⟨short, foundShort⟩ := Option.isSome_iff_exists.mp ((registered_run calls a).mpr first)
  obtain ⟨long, foundLong⟩ := Option.isSome_iff_exists.mp ((registered_run calls b).mpr second)
  obtain ⟨inst, found⟩ := Option.isSome_iff_exists.mp
    (reached.base ((registered_run calls b).mpr second))
  have single := (isolated.listed calls (List.prefix_refl calls) (b, []) long inst
    ⟨foundLong, found⟩).1
  -- the shorter identifier lists the instance too
  have also : (short, b, inst) ∈ (run calls).statusEntries := by
    rw [statusEntries, List.mem_flatMap]
    refine ⟨(a, short), OrderedMap.mem_entries.mpr foundShort, ?_⟩
    refine List.mem_map.mpr ⟨(b, inst), List.mem_filter.mpr ⟨OrderedMap.mem_entries.mpr found, ?_⟩, rfl⟩
    rw [reached.ids foundShort]
    exact List.isPrefixOf_iff_prefix.mpr inside
  have twice : (short, b, inst) ∈ [(long, b, inst)] := by
    refine (congrArg ((short, b, inst) ∈ ·) single).mp ?_
    exact List.mem_filter.mpr ⟨also, decide_eq_true rfl⟩
  rw [← reached.ids foundShort, ← reached.ids foundLong]
  exact congrArg (fun e => e.1.id) (List.mem_singleton.mp twice)

/-- At the converted timeout `tick` ends the instance, too early if the conversion overflowed. -/
theorem Isolated.timeoutsFit {calls : List RegistryCall} (isolated : Isolated calls) :
    TimeoutsFit calls := by
  intro before inside p definition inst holds active
  by_contra long
  have pos : 0 < definition.deactivateTimeout :=
    Int64.lt_trans (show 0 < maxTimeout by decide) (Int64.not_le.mp long)
  obtain ⟨after, ticked, due⟩ := isolated.due before inside
    (inst.lastEventTime + (nanoseconds definition.deactivateTimeout).toInt) p definition inst holds
    active
  rw [tick_own (isolated.prefixFree.earlier inside) (reached_run before) (registered_run before) _
    holds] at ticked
  cases ticked
  rw [expireBy_own _ ((reached_run before).ids holds.definition) active] at due
  have late := (due.mp ⟨pos, by omega⟩).2
  have overflow := nanoseconds_overflow long
  omega

/-- The instances of a run stay apart exactly while no registered identifier is a proper prefix of
another one and the timeouts of the active ones can be converted. -/
theorem isolated_iff (calls : List RegistryCall) :
    Isolated calls ↔ PrefixFree (registeredIds calls) ∧ TimeoutsFit calls :=
  ⟨fun isolated => ⟨isolated.prefixFree, isolated.timeoutsFit⟩,
    fun both => isolated_of_prefixFree both.1 both.2⟩

theorem ntripConnected_notIsolated :
    ¬ Isolated [.registerDefinition { id := "ntrip".toList, deactivateTimeout := 1000 },
      .registerDefinition { id := "ntrip_connected".toList }] := by
  intro isolated
  have same := isolated.prefixFree "ntrip".toList (by decide) "ntrip_connected".toList (by decide)
    (by decide)
  exact absurd same (by decide)

end StateMachineRegistry

end GnssParser
