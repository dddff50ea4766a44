import Follon.Paper.Policy

/-!
# Kill switches and operator commands
-/

namespace Follon.Paper

open Foundation Domain

inductive KillSwitchScope where
  | global
  | account (accountId : String)
  | strategy (strategyId : String)
  | instrument (instrumentId : String)
  deriving DecidableEq

namespace KillSwitchScope

def orderKey : KillSwitchScope → Nat × String
  | global => (0, "")
  | account accountId => (1, accountId)
  | strategy strategyId => (2, strategyId)
  | instrument instrumentId => (3, instrumentId)

theorem orderKey_injective : Function.Injective orderKey := by
  intro a b h
  cases a <;> cases b <;> simp_all [orderKey]

def compareScopes : KillSwitchScope → KillSwitchScope → Ordering :=
  compareLex (compareOn (·.orderKey.1)) (compareOn (·.orderKey.2))

instance : Ord KillSwitchScope := ⟨compareScopes⟩

instance : Std.TransOrd KillSwitchScope :=
  inferInstanceAs (Std.TransCmp
    (compareLex (compareOn fun scope => (orderKey scope).1)
      (compareOn fun scope => (orderKey scope).2)))

instance : Std.LawfulEqOrd KillSwitchScope where
  eq_of_compare := fun {a b} h => by
    apply orderKey_injective
    have hlex : compareScopes a b = .eq := h
    simp only [compareScopes, compareLex, compareOn, Ordering.then_eq_eq,
      Std.LawfulEqCmp.compare_eq_iff_eq] at hlex
    exact Prod.ext hlex.1 hlex.2

def asKey : KillSwitchScope → String
  | global => "global"
  | account accountId => "account:" ++ accountId
  | strategy strategyId => "strategy:" ++ strategyId
  | instrument instrumentId => "instrument:" ++ instrumentId

def validate : KillSwitchScope → Result Unit
  | global => .ok ()
  | account value => validateCanonicalId "kill-switch account" value
  | strategy value => validateCanonicalId "kill-switch strategy" value
  | instrument value => validateCanonicalId "kill-switch instrument" value

def stripPrefix (stem value : String) : Option String :=
  if stem.toList.isPrefixOf value.toList then
    some (String.ofList (value.toList.drop stem.toList.length))
  else
    none

def fromKey (value : String) : Result KillSwitchScope :=
  if value = "global" then
    .ok global
  else
    match stripPrefix "account:" value, stripPrefix "strategy:" value,
        stripPrefix "instrument:" value with
    | some target, _, _ => do
      (account target).validate
      pure (account target)
    | none, some target, _ => do
      (strategy target).validate
      pure (strategy target)
    | none, none, some target => do
      (instrument target).validate
      pure (instrument target)
    | none, none, none =>
      .error ⟨"kill-switch scope must be global, account:<id>, strategy:<id> or instrument:<id>"⟩

theorem stripPrefix_append (stem value : String) :
    stripPrefix stem (stem ++ value) = some value := by
  simp [stripPrefix, toList_append]

private theorem stripPrefix_other {stem other : String}
    (hstem : stem.toList.head? ≠ other.toList.head? ∧ stem.toList ≠ [] ∧
      other.toList ≠ []) (value : String) : stripPrefix stem (other ++ value) = none := by
  simp only [stripPrefix, toList_append]
  cases hleft : stem.toList with
  | nil => exact absurd hleft hstem.2.1
  | cons c cs =>
    cases hright : other.toList with
    | nil => exact absurd hright hstem.2.2
    | cons d ds =>
      rw [hleft, hright] at hstem
      have hcd : c ≠ d := by
        simpa using hstem.1
      simp [List.isPrefixOf, hcd]

theorem fromKey_asKey {scope : KillSwitchScope}
    (h : scope.validate = .ok ()) : fromKey scope.asKey = .ok scope := by
  cases scope with
  | global => decide
  | account accountId =>
    simp only [fromKey, asKey, stripPrefix_append]
    rw [h]
    rfl
  | strategy strategyId =>
    have haccount : stripPrefix "account:" ("strategy:" ++ strategyId) = none :=
      stripPrefix_other (by decide) strategyId
    simp only [fromKey, asKey, stripPrefix_append, haccount]
    rw [h]
    rfl
  | instrument instrumentId =>
    have haccount :
        stripPrefix "account:" ("instrument:" ++ instrumentId) = none :=
      stripPrefix_other (by decide) instrumentId
    have hstrategy :
        stripPrefix "strategy:" ("instrument:" ++ instrumentId) = none :=
      stripPrefix_other (by decide) instrumentId
    simp only [fromKey, asKey, stripPrefix_append, haccount, hstrategy]
    rw [h]
    rfl

end KillSwitchScope

inductive KillSwitchAction where
  | activate
  | release
  deriving DecidableEq

def KillSwitchAction.asStr : KillSwitchAction → String
  | activate => "ACTIVATE"
  | release => "RELEASE"

structure KillSwitchOperation where
  scope : String
  action : KillSwitchAction
  (operator operatedAt : String)
  deriving DecidableEq

inductive OrderOperationAction where
  | cancelRequested
  deriving DecidableEq

def OrderOperationAction.asStr : OrderOperationAction → String
  | cancelRequested => "CANCEL_REQUESTED"

structure OrderOperation where
  orderId : String
  action : OrderOperationAction
  (operator operatedAt : String)
  deriving DecidableEq

structure KillSwitchRegistry where
  version : String
  active : OrderedSet KillSwitchScope
  deriving DecidableEq

namespace KillSwitchRegistry

def new (version : String) : Result KillSwitchRegistry := do
  refuseIf (version.isEmpty = true) "kill-switch version is required"
  pure ⟨version, ∅⟩

def activate (registry : KillSwitchRegistry) (scope : KillSwitchScope) :
    Result (Bool × KillSwitchRegistry) := do
  scope.validate
  pure (!registry.active.contains scope,
    { registry with active := registry.active.insert scope })

def deactivate (registry : KillSwitchRegistry) (scope : KillSwitchScope) :
    Bool × KillSwitchRegistry :=
  (registry.active.contains scope,
    { registry with active := registry.active.erase scope })

def activeKeys (registry : KillSwitchRegistry) : List String :=
  registry.active.toList.map (·.asKey)

def upperCode (key : String) : String :=
  String.ofList (key.toList.map fun c => if c = ':' then '_' else c.toUpper)

def reasonsFor (registry : KillSwitchRegistry) (accountId strategyId : String)
    (instrumentIds : List String) : List String :=
  let scopes :=
    [KillSwitchScope.global, .account accountId, .strategy strategyId] ++
      instrumentIds.map KillSwitchScope.instrument
  ((scopes.filter (registry.active.contains ·)).map fun scope =>
    "KILL_SWITCH_" ++ upperCode scope.asKey).eraseReps

def rejectionReasons (registry : KillSwitchRegistry) (intent : OrderIntent) :
    List String :=
  registry.reasonsFor intent.accountId intent.strategyId [intent.instrumentId]

def comboRejectionReasons (registry : KillSwitchRegistry)
    (intent : ComboIntent) : List String :=
  registry.reasonsFor intent.accountId intent.strategyId
    (intent.legs.map (·.instrumentId))

end KillSwitchRegistry

end Follon.Paper
