import SocketReactor.Proofs.Reactor.Links

/-!
# What becomes of keys in a run

A key that was issued stays under its identity.  It never counts again once it
does not, it waits for a connection only if that was asked for since, and it is
found ready only by a poll of its selector.
-/

namespace SocketReactor

/-- What some operations may have made of a reactor. -/
structure Reactor.Becomes (asks : KeyId → Prop) (polls : Nat → Prop)
    (reactor later : Reactor) : Prop where
  /-- No selector is lost, and none has issued fewer keys than before. -/
  issued : ∀ number selector, reactor.selector? number = some selector →
    ∃ after, later.selector? number = some after ∧ selector.issued ≤ after.issued
  /-- No key is lost. -/
  forth : ∀ id key, reactor.key? id = some key →
    ∃ after, later.key? id = some after ∧ Key.Becomes (asks id) (polls id.selector) key after
  /-- A key is ready only if it was before or its selector was polled. -/
  ready : ∀ id key, later.key? id = some key → key.ready ≠ .none →
    (∃ former, reactor.key? id = some former ∧ former.ready ≠ .none) ∨ polls id.selector

variable {σ : Type} {answers : Answering σ} {asks : KeyId → Prop} {polls : Nat → Prop}
  {commands : String → Command → Prop}

namespace Reactor

variable {reactor middle later : Reactor}

theorem Becomes.trans (first : reactor.Becomes asks polls middle)
    (second : middle.Becomes asks polls later) : reactor.Becomes asks polls later where
  issued := by
    intro number selector known
    obtain ⟨between, known', grown⟩ := first.issued number selector known
    obtain ⟨after, known'', grown'⟩ := second.issued number between known'
    exact ⟨after, known'', grown.trans grown'⟩
  forth := by
    intro id key found
    obtain ⟨between, found', become⟩ := first.forth id key found
    obtain ⟨after, found'', become'⟩ := second.forth id between found'
    exact ⟨after, found'', become.trans become'⟩
  ready := by
    intro id key found nonempty
    rcases second.ready id key found nonempty with ⟨between, found', nonempty'⟩ | polled
    · exact first.ready id between found' nonempty'
    · exact .inr polled

theorem Becomes.refl (reactor : Reactor) : reactor.Becomes asks polls reactor where
  issued _ selector known := ⟨selector, known, Nat.le_refl _⟩
  forth _ key found := ⟨key, found, .refl key⟩
  ready _ key found nonempty := .inl ⟨key, found, nonempty⟩

theorem becomes_of_selectors (selectors : later.selectors = reactor.selectors) :
    reactor.Becomes asks polls later where
  issued number selector known :=
    ⟨selector, (selector?_of_selectors selectors number).trans known, Nat.le_refl _⟩
  forth id key found := ⟨key, (key?_of_selectors selectors id).trans found, .refl key⟩
  ready id key found nonempty :=
    .inl ⟨key, (key?_of_selectors selectors id).symm.trans found, nonempty⟩

/-- A reactor in which one selector has changed. -/
theorem becomes_setSelector {number : Nat} {selector settled : Selector}
    (known : reactor.selector? number = some selector)
    (issued : selector.issued ≤ settled.issued)
    (forth : ∀ serial key, selector.key? serial = some key →
      ∃ after, settled.key? serial = some after ∧
        Key.Becomes (asks ⟨number, serial⟩) (polls number) key after)
    (ready : ∀ serial key, settled.key? serial = some key → key.ready ≠ .none →
      (∃ former, selector.key? serial = some former ∧ former.ready ≠ .none) ∨ polls number) :
    reactor.Becomes asks polls (reactor.setSelector number settled) where
  issued := by
    intro other given present
    rw [selector?_setSelector]
    by_cases same : other = number
    · subst same
      cases known.symm.trans present
      exact ⟨settled, if_pos rfl, issued⟩
    · exact ⟨given, (if_neg same).trans present, Nat.le_refl _⟩
  forth := by
    rintro ⟨other, serial⟩ key found
    rw [key?_setSelector]
    by_cases same : other = number
    · subst same
      rw [if_pos rfl]
      exact forth serial key ((key?_of_selector? known).symm.trans found)
    · exact ⟨key, (if_neg same).trans found, .refl key⟩
  ready := by
    rintro ⟨other, serial⟩ key found nonempty
    rw [key?_setSelector] at found
    split at found
    · rename_i same
      obtain rfl : other = number := same
      rcases ready serial key found nonempty with ⟨former, present, nonempty'⟩ | polled
      · exact .inl ⟨former, (key?_of_selector? known).trans present, nonempty'⟩
      · exact .inr polled
    · exact .inl ⟨key, found, nonempty⟩

/-- A new selector has no keys. -/
theorem becomes_addSelector (selection : Setup.Selection)
    (fresh : reactor.selector? reactor.made = none) :
    reactor.Becomes asks polls (reactor.addSelector selection).2 := by
  have grown : ∀ number, (reactor.addSelector selection).2.selector? number =
      if number = reactor.made then some (.new selection) else reactor.selector? number :=
    fun number => reactor.selector?_setSelector reactor.made number (.new selection)
  have keys : ∀ id, (reactor.addSelector selection).2.key? id =
      if id.selector = reactor.made then none else reactor.key? id :=
    fun id => reactor.key?_setSelector reactor.made (.new selection) id
  refine ⟨?_, ?_, ?_⟩
  · intro number selector known
    refine ⟨selector, (grown number).trans ?_, Nat.le_refl _⟩
    rw [if_neg]
    · exact known
    · rintro rfl
      cases fresh.symm.trans known
  · intro id key found
    refine ⟨key, (keys id).trans ?_, .refl key⟩
    rw [if_neg]
    · exact found
    · intro same
      rw [key?, same, fresh] at found
      cases found
  · intro id key found nonempty
    rw [keys id] at found
    split at found
    · cases found
    · exact .inl ⟨key, found, nonempty⟩

end Reactor

theorem Selector.Becomes.setSelector {reactor : Reactor} {asked : Nat → Prop} {polled : Prop}
    {number : Nat} {selector settled : Selector}
    (becomes : selector.Becomes asked polled settled)
    (known : reactor.selector? number = some selector)
    (asked_only : ∀ serial, asked serial → asks ⟨number, serial⟩)
    (polled_only : polled → polls number) :
    reactor.Becomes asks polls (reactor.setSelector number settled) := by
  refine Reactor.becomes_setSelector known becomes.issued.ge ?_ ?_
  · intro serial key found
    obtain ⟨after, found', become⟩ := becomes.forth found
    exact ⟨after, found', { become with
      connect := fun wants => (become.connect wants).imp id (asked_only serial)
      ready := become.ready.imp id (Or.imp id polled_only) }⟩
  · intro serial key found nonempty
    obtain ⟨former, present, become⟩ := becomes.back found
    rcases become.ready with same | empty | polled
    · exact .inl ⟨former, present, same ▸ nonempty⟩
    · exact absurd empty nonempty
    · exact .inr (polled_only polled)

/-- What becomes of the keys when one more is issued. -/
theorem Selector.Registered.setSelector {reactor : Reactor} {number : Nat}
    {selector settled : Selector} {descriptor : Descriptor} {validOps interest : OpSet}
    {attachment : Option String} {result : Except Fault Nat} {host after : σ}
    (outcome : selector.Registered answers descriptor validOps interest attachment host result
      settled after) (kept : selector.Kept)
    (known : reactor.selector? number = some selector) :
    reactor.Becomes asks polls (reactor.setSelector number settled) := by
  cases outcome with
  | unasked plain =>
      exact Reactor.becomes_setSelector known (Nat.le_refl _)
        (fun _ key found => ⟨key, found, .refl key⟩)
        fun _ key found nonempty => .inl ⟨key, found, nonempty⟩
  | refused isOpen sync =>
      exact Reactor.becomes_setSelector known (Nat.le_succ _)
        (fun _ key found => ⟨key, found, .refl key⟩)
        fun _ key found nonempty => .inl ⟨key, found, nonempty⟩
  | issued isOpen within sync =>
      refine Reactor.becomes_setSelector known (Nat.le_succ _) ?_ ?_
      · intro serial key found
        have older := (kept.counted serial key found).ne
        exact ⟨key, ((Table.get?_insert _ _ _ _).trans (if_neg older)).trans found, .refl key⟩
      · intro serial key found nonempty
        have entry := (Table.get?_insert _ _ _ _).symm.trans found
        split at entry
        · cases entry
          obtain ⟨same, -⟩ := sync.eq_armed
          rw [same] at nonempty
          exact absurd rfl nonempty
        · exact .inl ⟨key, entry, nonempty⟩

section Steps

variable {scene later : Scene σ}

/-- What a move makes of the keys. -/
theorem Move.becomes (linked : scene.Linked) (step : Move answers asks polls commands scene later) :
    scene.reactor.Becomes asks polls later.reactor := by
  cases step with
  | act known outcome asked polled tended =>
      exact (outcome.becomes (linked.kept _ _ known)).setSelector known asked polled
  | refuse known outcome tended => exact outcome.setSelector (linked.kept _ _ known) known
  | issue named lapsed known outcome tended =>
      exact Reactor.Becomes.trans (outcome.setSelector (linked.kept _ _ known) known)
        (Reactor.becomes_of_selectors rfl)
  | swap name =>
      rename_i reactor loose host
      cases loose <;> exact Reactor.becomes_of_selectors rfl
  | add selection => exact Reactor.becomes_addSelector selection (linked.numbered _ (Nat.le_refl _))
  | forget | gain | miss | wrap | discard | perform => exact Reactor.becomes_of_selectors rfl

theorem Moves.becomes (linked : scene.Linked) (steps : Moves answers asks polls commands scene later) :
    scene.reactor.Becomes asks polls later.reactor := by
  induction steps with
  | refl => exact .refl _
  | tail steps step ih => exact ih.trans (step.becomes (linked.moves steps))

end Steps

/-! ## Histories -/

/-- Operations that ask for less and poll less. -/
theorem Reactor.Becomes.mono {asks' : KeyId → Prop} {polls' : Nat → Prop}
    {reactor later : Reactor} (becomes : reactor.Becomes asks polls later)
    (asked : ∀ id, asks id → asks' id) (polled : ∀ number, polls number → polls' number) :
    reactor.Becomes asks' polls' later where
  issued := becomes.issued
  forth := by
    intro id key found
    obtain ⟨after, found', become⟩ := becomes.forth id key found
    exact ⟨after, found', { become with
      connect := fun wants => (become.connect wants).imp_right (asked id)
      ready := become.ready.imp_right (Or.imp_right (polled id.selector)) }⟩
  ready := by
    intro id key found nonempty
    exact (becomes.ready id key found nonempty).imp_right (polled id.selector)

namespace History

variable {start reactor : Reactor} {origin state : σ} {trace past rest : List Entry}
  {entry : Entry}

/-- What the operations of a history make of the keys. -/
theorem becomes (linked : (⟨start, none, origin⟩ : Scene σ).Linked)
    (history : History answers start origin trace reactor state) :
    start.Becomes (fun id => ∃ entry ∈ trace, entry.operation.Asks entry.before id)
      (fun number => ∃ entry ∈ trace, entry.operation.Polls number) reactor := by
  induction history with
  | nil => exact .refl start
  | snoc past run ih =>
      rename_i trace before after state later operation result
      have newest := (moves_of_runs run).becomes (past.linked linked)
      refine Reactor.Becomes.trans (ih.mono ?_ ?_) (newest.mono ?_ ?_)
      · rintro id ⟨entry, mem, asks⟩
        exact ⟨entry, List.mem_append_left _ mem, asks⟩
      · rintro number ⟨entry, mem, polls⟩
        exact ⟨entry, List.mem_append_left _ mem, polls⟩
      · intro id asks
        exact ⟨_, List.mem_append_right _ (List.mem_singleton_self _), asks⟩
      · intro number polls
        exact ⟨_, List.mem_append_right _ (List.mem_singleton_self _), polls⟩

/-- A history up to some entry, the operation of that entry, and the history from there. -/
theorem cut (history : History answers start origin (past ++ entry :: rest) reactor state) :
    ∃ before after, History answers start origin past entry.before before ∧
      (entry.operation.perform entry.before).Runs answers before
        (entry.result, entry.after) after ∧
      History answers entry.after after rest reactor state := by
  generalize trace_eq : past ++ entry :: rest = trace at history
  induction history generalizing rest with
  | nil => simp at trace_eq
  | snoc former run ih =>
      rcases List.eq_nil_or_concat rest with rfl | ⟨others, last, rfl⟩
      · obtain ⟨rfl, same⟩ := List.append_inj' trace_eq rfl
        cases same
        exact ⟨_, _, former, run, .nil⟩
      · rw [List.concat_eq_append, ← List.cons_append, ← List.append_assoc] at trace_eq
        obtain ⟨rfl, same⟩ := List.append_inj' trace_eq rfl
        cases same
        obtain ⟨before, after, earlier, made, between⟩ := ih rfl
        exact ⟨before, after, earlier, made, List.concat_eq_append ▸ between.snoc run⟩

end History

end SocketReactor
