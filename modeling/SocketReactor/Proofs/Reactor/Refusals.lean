import SocketReactor.Proofs.Reactor.Agreement

/-!
# Changes of interest that fail

A change of what a key is interested in, or a registration, that fails leaves the
owners, the registries and the host as they were.  One thing may be different
afterwards: where the backend refuses to watch for the new interest of a key that
the channel has already, the key has the new interest all the same.
-/

namespace SocketReactor

variable {kernel afterwards : Kernel}

/-- The key once the backend has refused to watch for a new interest. -/
def Key.refuse (key : Key) (interest : OpSet) : Key :=
  { key with interest := interest, armed := key.armed && !interest.isEmpty }

/-- What a caller sees of a key besides what never changes. -/
def Key.shown (key : Key) : OpSet × OpSet × Option String × Bool :=
  (key.interest, key.ready, key.attachment, key.valid)

/-- The selector after some more tokens have been used up. -/
def Selector.counting (selector : Selector) (more : Nat) : Selector :=
  { selector with issued := selector.issued + more }

def Selector.keyless (selector : Selector) : Selector := { selector with keys := ∅ }

namespace Operation

/-- The key that a channel or a caller has already and the interest that an operation asks
for it. -/
def change? (reactor : Reactor) : Operation → Option (KeyId × OpSet)
  | setInterest id interest => some (id, interest)
  | register name selector interest _ =>
      ((reactor.owner? name).bind reactor.validKey?).bind fun id =>
        if id.selector = selector then some (id, interest) else none
  | _ => none

/-- Why a change of interest has failed. -/
def refusal? : (operation : Operation) → operation.Result → Option Refusal
  | setInterest _ _, .error fault => some (.fault fault)
  | register _ _ _ _, .error refusal => some refusal
  | _, _ => none

end Operation

/-- The change that is stored although it has failed: it is if the fault is the backend's. -/
def Fault.stores (change : Option (KeyId × OpSet)) : Fault → Option (KeyId × OpSet)
  | backendFailed _ _ => change
  | _ => none

def Refusal.stores (change : Option (KeyId × OpSet)) : Refusal → Option (KeyId × OpSet)
  | failed (.fault fault) => fault.stores change
  | _ => none

theorem Fault.stores_of_plain {fault : Fault} (plain : fault.errno? = none)
    (change : Option (KeyId × OpSet)) : fault.stores change = none := by
  cases fault <;> first | rfl | cases plain

theorem Fault.stores_none (fault : Fault) : fault.stores none = none := by
  cases fault <;> rfl

theorem Refusal.stores_of_plain {refusal : Refusal}
    (plain : ∀ fault, refusal = .fault fault → fault.errno? = none)
    (change : Option (KeyId × OpSet)) : refusal.stores change = none := by
  unfold Refusal.stores
  split
  · exact Fault.stores_of_plain (plain _ rfl) change
  · rfl

/-- The key with an identity after a change that has failed. -/
def Key.storing (key : Key) (id : KeyId) : Option (KeyId × OpSet) → Key
  | some (changed, interest) => if id = changed then key.refuse interest else key
  | none => key

theorem Key.map_storing_none (id : KeyId) (found : Option Key) :
    (found.map fun key => key.storing id none) = found := by
  cases found <;> rfl

theorem Key.map_storing_of_ne {id changed : KeyId} (apart : id ≠ changed) (interest : OpSet)
    (found : Option Key) :
    (found.map fun key => key.storing id (some (changed, interest))) = found := by
  cases found with
  | none => rfl
  | some key => exact congrArg some (if_neg apart)

namespace Reactor

variable {before after : Reactor} {change : Option (KeyId × OpSet)}

/-- Nothing is different but how many tokens are used up, and the key whose change is stored. -/
structure Leaves (before : Reactor) (change : Option (KeyId × OpSet)) (after : Reactor) :
    Prop where
  owners : after.owners = before.owners
  made : after.made = before.made
  selectors : ∀ id, ∃ more, (after.selector? id).map Selector.keyless =
    (before.selector? id).map fun selector => selector.keyless.counting more
  keys : ∀ id, after.key? id = (before.key? id).map fun key => key.storing id change

theorem Leaves.refl (reactor : Reactor) : reactor.Leaves none reactor where
  owners := rfl
  made := rfl
  selectors _ := ⟨0, rfl⟩
  keys id := (Key.map_storing_none id _).symm

/-- A selector has used some tokens up. -/
theorem Leaves.counting {reactor : Reactor} {id : Nat} {selector : Selector}
    (known : reactor.selector? id = some selector) (more : Nat) :
    reactor.Leaves none (reactor.setSelector id (selector.counting more)) where
  owners := rfl
  made := rfl
  selectors other := by
    rw [selector?_setSelector]
    split
    · rename_i same
      rw [same, known]
      exact ⟨more, rfl⟩
    · exact ⟨0, rfl⟩
  keys key := by
    rw [Key.map_storing_none, key?_setSelector]
    split
    · rename_i same
      rw [key?, same, known]
      rfl
    · rfl

/-- A key has the interest that its backend has refused. -/
theorem Leaves.storing {reactor : Reactor} {id : KeyId} {selector : Selector} {key : Key}
    (known : reactor.selector? id.selector = some selector)
    (found : selector.key? id.serial = some key) (interest : OpSet) :
    reactor.Leaves (some (id, interest)) (reactor.setSelector id.selector
      (selector.setKey id.serial (key.refuse interest))) where
  owners := rfl
  made := rfl
  selectors other := by
    rw [selector?_setSelector]
    split
    · rename_i same
      rw [same, known]
      exact ⟨0, rfl⟩
    · exact ⟨0, rfl⟩
  keys other := by
    by_cases here : other = id
    · rw [here, key?_setSelector, if_pos rfl, Selector.key?_setKey, if_pos rfl,
        key?_of_selector? known, found]
      exact congrArg some (if_pos rfl).symm
    · rw [Key.map_storing_of_ne here, key?_setSelector]
      split
      · rename_i same
        rw [Selector.key?_setKey, key?, same, known, if_neg]
        · rfl
        · intro same'
          exact here (KeyId.mk.injEq .. ▸ ⟨same, same'⟩)
      · rfl

end Reactor

/-! ## What a failing call leaves behind -/

/-- A backend that refuses leaves the host as it was, and a key without interest is not
taken to be watched. -/
theorem Key.Synced.refuse {backend : Backend} {key synced : Key} {ops : OpSet} {errno : Errno}
    (outcome : Key.Synced Kernel.Allows backend key ops kernel (.error errno) synced
      afterwards) :
    synced = { key with armed := key.armed && !ops.isEmpty } ∧ afterwards = kernel := by
  have sought : ops ≠ .none → ops.isEmpty = false := fun wanted => decide_eq_false wanted
  cases outcome with
  | deleted empty armed answered =>
      refine ⟨?_, answered⟩
      rw [(OpSet.isEmpty_iff ops).mpr empty, Bool.not_true, Bool.and_false]
  | modified wanted armed answered | refused wanted unarmed answered =>
      refine ⟨?_, answered⟩
      rw [sought wanted, Bool.not_false, Bool.and_true]

namespace Selector

variable {selector later : Selector}

/-- A change of interest that fails leaves the host alone, and the selector too unless the
backend has refused it. -/
theorem Changed.refuse {serial : Nat} {interest : OpSet} {fault : Fault}
    (outcome : selector.Changed Kernel.Allows serial interest kernel (.error fault) later
      afterwards) :
    afterwards = kernel ∧ ((fault.errno? = none ∧ later = selector) ∨
      ∃ key errno, selector.key? serial = some key ∧ fault = .backendFailed errno "epoll_ctl" ∧
        later = selector.setKey serial (key.refuse interest)) := by
  generalize failed : (Except.error fault : Except Fault Unit) = result at outcome
  cases outcome with
  | unasked plain =>
      cases failed
      exact ⟨rfl, .inl ⟨plain, rfl⟩⟩
  | stored found within valid isOpen present sync =>
      rename_i key synced backend reply
      cases reply with
      | ok value => cases failed
      | error errno =>
          cases failed
          obtain ⟨rfl, rfl⟩ := sync.refuse
          exact ⟨rfl, .inr ⟨key, errno, found, rfl, rfl⟩⟩

/-- A registration that fails leaves the host alone and uses up at most a token. -/
theorem Registered.refuse {descriptor : Descriptor} {validOps interest : OpSet}
    {attachment : Option String} {fault : Fault}
    (outcome : selector.Registered Kernel.Allows descriptor validOps interest attachment kernel
      (.error fault) later afterwards) :
    afterwards = kernel ∧ ∃ more, later = selector.counting more := by
  cases outcome with
  | unasked plain => exact ⟨rfl, 0, rfl⟩
  | refused isOpen sync => exact ⟨sync.refuse.2, 1, rfl⟩

end Selector

namespace Reactor

variable {before after : Reactor} {fault : Fault} {attachment : Option String}

theorem leaves_of_setInterest {id : KeyId} {interest : OpSet}
    (run : (before.setInterest id interest).Runs Kernel.Allows kernel (.error fault, after)
      afterwards) :
    afterwards = kernel ∧ before.Leaves (fault.stores (some (id, interest))) after := by
  unfold setInterest onSelector at run
  split at run
  · obtain ⟨same, rfl⟩ := run
    cases same
    exact ⟨rfl, .refl before⟩
  · rename_i selector known
    obtain ⟨⟨outcome, settled⟩, between, changed, same, rfl⟩ := Program.runs_bind.mp run
    cases same
    obtain ⟨rfl, ⟨plain, rfl⟩ | ⟨key, errno, found, rfl, rfl⟩⟩ :=
      (Selector.changed_of_runs changed).refuse
    · rw [Fault.stores_of_plain plain]
      exact ⟨rfl, .counting known 0⟩
    · exact ⟨rfl, .storing known found interest⟩

theorem leaves_of_registerNew {name : String} {channel : Channel} {selector : Nat}
    {interest : OpSet}
    (run : (before.registerNew name channel selector interest attachment).Runs Kernel.Allows
      kernel (.error fault, after) afterwards) :
    afterwards = kernel ∧ before.Leaves none after := by
  obtain ⟨⟨reply, middle⟩, between, stepped, rest⟩ := Program.runs_bind.mp run
  cases reply with
  | ok serial =>
      obtain ⟨same, -⟩ := rest
      cases same
  | error fault =>
      obtain ⟨same, rfl⟩ := rest
      cases same
      unfold onSelector at stepped
      split at stepped
      · obtain ⟨same, rfl⟩ := stepped
        cases same
        exact ⟨rfl, .refl before⟩
      · rename_i selector' known
        obtain ⟨⟨given, settled⟩, last, registered, same, rfl⟩ := Program.runs_bind.mp stepped
        cases same
        obtain ⟨rfl, more, rfl⟩ := (Selector.registered_of_runs registered).refuse
        exact ⟨rfl, .counting known more⟩

theorem leaves_of_register {name : String} {selector : Nat} {interest : OpSet}
    {refusal : Refusal}
    (run : (before.register name selector interest attachment).Runs Kernel.Allows kernel
      (.error refusal, after) afterwards) :
    afterwards = kernel ∧ before.Leaves (refusal.stores
      ((Operation.register name selector interest attachment).change? before)) after := by
  generalize given : (Except.error refusal : Except Refusal KeyId) = result at run
  cases enrolled_of_runs run with
  | refused plain =>
      cases given
      rw [Refusal.stores_of_plain plain]
      exact ⟨rfl, .refl before⟩
  | @fresh channel outcome _ _ named lapsed registered =>
      cases outcome with
      | ok id => cases given
      | error fault =>
          cases given
          have silent : (Refusal.fault fault).stores none = none := Fault.stores_none fault
          rw [Operation.change?, named, Option.bind_some, lapsed, Option.bind_none, silent]
          exact leaves_of_registerNew registered
  | unchanged named counts here changed =>
      cases given
      rw [Operation.change?, named, Option.bind_some, counts, Option.bind_some, if_pos here]
      exact leaves_of_setInterest changed
  | changed => cases given

/-- What callers see of the owners, the registries and the keys is what it was. -/
structure Unchanged (before after : Reactor) : Prop where
  owners : after.owners = before.owners
  registries : ∀ id, (after.selector? id).map Selector.registry =
    (before.selector? id).map Selector.registry
  keys : ∀ id, (after.key? id).map Key.shown = (before.key? id).map Key.shown

theorem Leaves.registries {change : Option (KeyId × OpSet)} (leaves : before.Leaves change after)
    (id : Nat) :
    (after.selector? id).map Selector.registry =
      (before.selector? id).map Selector.registry := by
  obtain ⟨more, same⟩ := leaves.selectors id
  have equal := congrArg (Option.map Selector.registry) same
  rw [Option.map_map, Option.map_map] at equal
  exact equal

/-- A change that is stored shows unless the key had the interest already. -/
theorem Leaves.unchanged_iff {change : Option (KeyId × OpSet)}
    (leaves : before.Leaves change after) :
    before.Unchanged after ↔ ∀ id interest key, change = some (id, interest) →
      before.key? id = some key → key.interest = interest := by
  constructor
  · rintro unchanged id interest key rfl found
    have shown := unchanged.keys id
    rw [leaves.keys id, found] at shown
    simp only [Option.map_some, Key.storing, if_true, Option.some.injEq] at shown
    exact (congrArg Prod.fst shown).symm
  · intro fitting
    refine ⟨leaves.owners, leaves.registries, ?_⟩
    intro id
    rw [leaves.keys id]
    match change with
    | none => rw [Key.map_storing_none]
    | some (changed, interest) =>
        by_cases here : id = changed
        · subst here
          cases found : before.key? id with
          | none => rfl
          | some key =>
              obtain rfl := fitting id interest key rfl found
              rw [Option.map_some, Option.map_some, Option.map_some, Key.storing, if_pos rfl]
              rfl
        · rw [Key.map_storing_of_ne here]

end Reactor

variable {before after : Reactor}

/-- A registration or a change of interest that fails leaves the kernel as it was, and of
the reactor everything but the number of tokens used up and one interest: if the backend
has refused the change of a key, the key has the new interest.  So what callers see is as it
was exactly if the backend was not asked, if there was no key yet, or if the key had the
interest before. -/
theorem failed_change_stores_refused_interest {operation : Operation}
    {result : operation.Result} {refusal : Refusal}
    (run : (operation.perform before).Runs Kernel.Allows kernel (result, after) afterwards)
    (failed : operation.refusal? result = some refusal) :
    afterwards = kernel ∧ before.Leaves (refusal.stores (operation.change? before)) after ∧
      (before.Unchanged after ↔ ∀ id interest key,
        refusal.stores (operation.change? before) = some (id, interest) →
          before.key? id = some key → key.interest = interest) := by
  have left : afterwards = kernel ∧
      before.Leaves (refusal.stores (operation.change? before)) after := by
    cases operation with
    | setInterest id interest =>
        match result with
        | .error fault =>
            cases failed
            exact Reactor.leaves_of_setInterest run
    | register name selector interest attachment =>
        match result with
        | .error given =>
            cases failed
            exact Reactor.leaves_of_register run
    | _ => cases failed
  exact ⟨left.1, left.2, left.2.unchanged_iff⟩

def closedRun : List Operation :=
  [.newSelector .usual, .openSelector 0, .make "only" (.channel .stream .tcp4),
    .ask "only" .own .close, .register "only" 0 .none none]

/-- The backend refuses to watch a channel that is closed, and the key has the interest all
the same. -/
theorem refused_interest_of_closed_channel :
    ∃ trace before kernel after later,
      replay thriftyHost ∅ Kernel.bare closedRun = some (trace, before, kernel) ∧
      ((Operation.setInterest ⟨0, 0⟩ .reading).perform before).run thriftyHost kernel =
        some ((.error (.backendFailed .badDescriptor "epoll_ctl"), after), later) ∧
      ¬before.Unchanged after := by
  have plays : ((replay thriftyHost ∅ Kernel.bare closedRun).bind fun played =>
      (((Operation.setInterest ⟨0, 0⟩ .reading).perform played.2.1).run thriftyHost
        played.2.2).bind fun made => (played.2.1.key? ⟨0, 0⟩).map fun key =>
          (made.1.1, key.interest)) =
      some (.error (.backendFailed .badDescriptor "epoll_ctl"), .none) := by
    decide +kernel
  obtain ⟨⟨trace, before, kernel⟩, played, rest⟩ := Option.bind_eq_some_iff.mp plays
  obtain ⟨⟨⟨result, after⟩, later⟩, made, shown⟩ := Option.bind_eq_some_iff.mp rest
  obtain ⟨key, found, same⟩ := Option.map_eq_some_iff.mp shown
  obtain ⟨rfl, bare⟩ := Prod.mk.inj same
  have run := (Program.runs_ofMachine.mpr made).mono id fun call before reply later answered =>
    (answers_thriftyHost call before reply later answered).allows
  refine ⟨trace, before, kernel, after, later, played, made, ?_⟩
  rw [(failed_change_stores_refused_interest run rfl).2.2]
  intro fitting
  have read := fitting ⟨0, 0⟩ .reading key rfl found
  rw [bare] at read
  cases read

end SocketReactor
