import Mathlib.Data.List.Induction
import DeclGen.Proofs.Emission.Calls

/-!
# DeclGen.Proofs.Slot.Session

An element in use, under a resolver that may change.

1. Operations put inferers into the slot, by itself or by the setters of the
   element, change the element or the resolver, or ask for the element's type
   (`Session.play`).
2. What stands at a moment is read off the operations before it: the inferer
   that was put in last (`Session.latest?`), the last name and the last type,
   and the resolver with all its changes.
3. A question is a call of that inferer on that element and that resolver
   (`Session.calls`), and its reply is told by the kind of the inferer
   (`Call.reply`).

The main statement is that the operations come to these calls, each made once
and in their order, and to nothing else.
-/

namespace DeclGen

variable {m : Type → Type} {σ : Type}

/-! ## operations -/

/-- What an element is asked for. -/
inductive Question where
  /-- The type that its inferer computes. -/
  | infer
  /-- Its TypeScript type. -/
  | resolve
  deriving DecidableEq, Repr

/-- The answer to a question.  There is no type if nothing computes one. -/
abbrev Reply := Except InferError (Option TypeName)

/-- What is done with an element under a resolver. -/
inductive Operation (m : Type → Type) where
  /-- Puts an inferer of any kind into the slot. -/
  | set (inferer : Inferer m Field)
  | inferNameWith (run : Field → Resolver → ExceptT InferError m String)
  | inferTypeWith (run : Field → Resolver → ExceptT InferError m TypeName)
  | inferName (run : Field → ExceptT InferError m String)
  | inferType (run : Field → ExceptT InferError m TypeName)
  | rename (name : String)
  | retype (type : Native)
  | changeResolver (change : Resolver → Resolver)
  | ask (question : Question)

/-- An element and the resolver under which it is asked for its type. -/
structure Session (m : Type → Type) where
  element : Element m
  resolver : Resolver

namespace Session

/-- Asks for the type of the element. -/
def ask [Monad m] (s : Session m) : Question → m Reply
  | .infer => (s.element.infer s.resolver).run
  | .resolve => (some <$> s.element.resolve s.resolver).run

/-- The session after an operation, and the reply if the operation is a
question. -/
def perform [Monad m] (s : Session m) : Operation m → m (List Reply × Session m)
  | .set inferer =>
    pure ([], { s with element := { s.element with slot := s.element.slot.set inferer } })
  | .inferNameWith run => pure ([], { s with element := s.element.inferNameWith run })
  | .inferTypeWith run => pure ([], { s with element := s.element.inferTypeWith run })
  | .inferName run => pure ([], { s with element := s.element.inferName run })
  | .inferType run => pure ([], { s with element := s.element.inferType run })
  | .rename name => pure ([], { s with element := s.element.rename name })
  | .retype type => pure ([], { s with element := s.element.retype type })
  | .changeResolver change => pure ([], { s with resolver := change s.resolver })
  | .ask question => do
    let reply ← s.ask question
    pure ([reply], s)

/-- The session after operations, and the replies to the questions among them.
A question that fails ends nothing. -/
def play [Monad m] (s : Session m) : List (Operation m) → m (List Reply × Session m)
  | [] => pure ([], s)
  | op :: ops => do
    let (replies₁, s₁) ← s.perform op
    let (replies₂, s₂) ← s₁.play ops
    pure (replies₁ ++ replies₂, s₂)

end Session

/-! ## what stands at a moment -/

/-- The last value that a function gives on a list. -/
def last? {α β : Type} (f : α → Option β) (as : List α) : Option β := as.reverse.findSome? f

theorem last?_append {α β : Type} (f : α → Option β) (as : List α) (a : α) :
    last? f (as ++ [a]) = (f a).or (last? f as) := by
  rw [last?, last?, List.reverse_append, List.findSome?_append, List.reverse_singleton,
    List.findSome?_singleton]

namespace Operation

/-- The inferer that an operation puts into the slot. -/
def inferer? : Operation m → Option (Inferer m Field)
  | set inferer => some inferer
  | inferNameWith run => some (.nameWithResolver run)
  | inferTypeWith run => some (.typeWithResolver run)
  | inferName run => some (.name run)
  | inferType run => some (.type run)
  | _ => none

/-- The name that an operation gives to the element. -/
def name? : Operation m → Option String
  | rename name => some name
  | _ => none

/-- The native type that an operation gives to the element. -/
def type? : Operation m → Option Native
  | retype type => some type
  | _ => none

/-- The resolver that an operation makes of a resolver. -/
def change : Operation m → Resolver → Resolver
  | changeResolver change, r => change r
  | _, r => r

/-- What an operation asks. -/
def question? : Operation m → Option Question
  | ask question => some question
  | _ => none

end Operation

namespace Session

/-- The inferer that was put in last, with its number: the inferers count as the
operations do that put them in, and what was in the slot before counts as 0. -/
def latest? (s : Session m) (done : List (Operation m)) : Option (Nat × Inferer m Field) :=
  last? (fun (inferer?, number) => inferer?.map (number, ·))
    (s.element.slot.active :: done.map Operation.inferer?).zipIdx

/-- The element's name and native type: the last ones it was given. -/
def fieldAfter (s : Session m) (done : List (Operation m)) : Field where
  name := (last? Operation.name? done).getD s.element.field.name
  type := (last? Operation.type? done).getD s.element.field.type

/-- The resolver with its changes. -/
def resolverAfter (s : Session m) (done : List (Operation m)) : Resolver :=
  done.foldl (fun r op => op.change r) s.resolver

/-- The session that operations lead to. -/
def after (s : Session m) (done : List (Operation m)) : Session m :=
  ⟨⟨s.fieldAfter done, ⟨(s.latest? done).map Prod.snd⟩⟩, s.resolverAfter done⟩

end Session

/-- A question with what stands at its moment. -/
structure Call (m : Type → Type) where
  question : Question
  latest? : Option (Nat × Inferer m Field)
  field : Field
  resolver : Resolver

namespace Call

/-- The reply to a question: the name that the inferer gives, as a simple type,
its structured type or its error.  Without an inferer there is no type, or that
of the default mapping, as the question may be. -/
def reply [Monad m] (c : Call m) : m Reply :=
  match c.latest? with
  | some (_, .nameWithResolver run) =>
    Except.map (fun name => some (.simple name)) <$> (run c.field c.resolver).run
  | some (_, .typeWithResolver run) => Except.map some <$> (run c.field c.resolver).run
  | some (_, .name run) => Except.map (fun name => some (.simple name)) <$> (run c.field).run
  | some (_, .type run) => Except.map some <$> (run c.field).run
  | none => match c.question with
    | .infer => pure (.ok none)
    | .resolve => pure (.ok (some (c.resolver.resolve c.field.type)))

/-- The numbers of the inferers that a call runs. -/
def runs (c : Call m) : List Nat := c.latest?.toList.map Prod.fst

end Call

namespace Session

/-- A question after operations. -/
def callAfter (s : Session m) (done : List (Operation m)) (question : Question) : Call m :=
  ⟨question, s.latest? done, s.fieldAfter done, s.resolverAfter done⟩

/-- The questions among operations that follow others. -/
def callsFrom (s : Session m) (done : List (Operation m)) : List (Operation m) → List (Call m)
  | [] => []
  | op :: ops => op.question?.toList.map (s.callAfter done) ++ s.callsFrom (done ++ [op]) ops

/-- The questions among operations, each with what stands at its moment. -/
def calls (s : Session m) (ops : List (Operation m)) : List (Call m) := s.callsFrom [] ops

/-! ## one operation more -/

theorem latest?_nil (s : Session m) :
    s.latest? [] = s.element.slot.active.map fun inferer => (0, inferer) := by
  cases h : s.element.slot.active <;> simp [latest?, last?, h]

/-- An operation that puts an inferer into the slot decides what is there, and any
other leaves what was there. -/
theorem latest?_append (s : Session m) (done : List (Operation m)) (op : Operation m) :
    s.latest? (done ++ [op]) =
      (op.inferer?.map fun inferer => (done.length + 1, inferer)).or (s.latest? done) := by
  have hzip : (s.element.slot.active :: (done ++ [op]).map Operation.inferer?).zipIdx =
      (s.element.slot.active :: done.map Operation.inferer?).zipIdx ++
        [(op.inferer?, done.length + 1)] := by
    rw [List.map_append, ← List.cons_append, List.zipIdx_append]
    simp
  rw [latest?, hzip, last?_append, latest?]

theorem after_nil (s : Session m) : s.after [] = s := by
  have hslot : (s.latest? []).map Prod.snd = s.element.slot.active := by
    cases h : s.element.slot.active <;> simp [latest?_nil, h]
  rw [after, hslot]
  rfl

/-- An operation gives the element a name or a type, or leaves it as it was. -/
theorem fieldAfter_append (s : Session m) (done : List (Operation m)) (op : Operation m) :
    s.fieldAfter (done ++ [op]) =
      ⟨op.name?.getD (s.fieldAfter done).name, op.type?.getD (s.fieldAfter done).type⟩ := by
  rw [fieldAfter, last?_append, last?_append]
  cases op.name? <;> cases op.type? <;> simp [fieldAfter]

theorem resolverAfter_append (s : Session m) (done : List (Operation m)) (op : Operation m) :
    s.resolverAfter (done ++ [op]) = op.change (s.resolverAfter done) := by
  rw [resolverAfter, List.foldl_append]
  rfl

/-- What an operation makes of a session. -/
theorem after_append (s : Session m) (done : List (Operation m)) (op : Operation m) :
    s.after (done ++ [op]) =
      ⟨⟨⟨op.name?.getD (s.fieldAfter done).name, op.type?.getD (s.fieldAfter done).type⟩,
        ⟨op.inferer?.or ((s.latest? done).map Prod.snd)⟩⟩,
        op.change (s.resolverAfter done)⟩ := by
  have hslot : (s.latest? (done ++ [op])).map Prod.snd =
      op.inferer?.or ((s.latest? done).map Prod.snd) := by
    rw [latest?_append]
    cases op.inferer? <;> simp
  rw [after, hslot, fieldAfter_append, resolverAfter_append]

/-- A question changes nothing. -/
theorem after_ask (s : Session m) (done : List (Operation m)) (question : Question) :
    s.after (done ++ [.ask question]) = s.after done := by
  rw [after_append]
  rfl

variable [Monad m] [LawfulMonad m]

/-- A question is a call of the inferer that was put in last. -/
theorem ask_after (s : Session m) (done : List (Operation m)) (question : Question) :
    (s.after done).ask question = (s.callAfter done question).reply := by
  unfold callAfter Call.reply
  cases hlatest : s.latest? done with
  | none =>
      cases question <;>
        simp [ask, after, hlatest, Element.infer, Element.resolve, Slot.resolve, Slot.infer]
  | some latest =>
      obtain ⟨number, inferer⟩ := latest
      cases question <;> cases inferer <;>
        simp [ask, after, hlatest, Element.infer, Element.resolve, Slot.resolve, Slot.infer,
          Inferer.invoke]

/-- An operation makes the call that it asks for, if it asks, and nothing else. -/
theorem perform_after (s : Session m) (done : List (Operation m)) (op : Operation m) :
    (s.after done).perform op = (fun replies => (replies, s.after (done ++ [op]))) <$>
      (op.question?.toList.map (s.callAfter done)).mapM Call.reply := by
  cases op with
  | ask question =>
      rw [after_ask]
      simp [perform, Operation.question?, ask_after]
  | _ =>
      rw [after_append]
      simp [Operation.question?]
      rfl

/-- Operations behind others make the calls that they ask for. -/
theorem play_after (s : Session m) (done ops : List (Operation m)) :
    (s.after done).play ops = (fun replies => (replies, s.after (done ++ ops))) <$>
      (s.callsFrom done ops).mapM Call.reply := by
  induction ops generalizing done with
  | nil => simp [play, callsFrom]
  | cons op ops ih =>
      rw [play, perform_after, callsFrom, List.mapM_append]
      simp [ih]

end Session

/-! ## no way back -/

/-- After an operation that puts an inferer into the slot, the last inferer is this
one or one put in later. -/
theorem Session.length_lt_of_latest? {s : Session m} {before rest : List (Operation m)}
    {op : Operation m} (hop : op.inferer?.isSome) {latest : Nat × Inferer m Field}
    (h : s.latest? (before ++ op :: rest) = some latest) : before.length < latest.1 := by
  induction rest using List.reverseRecOn generalizing latest with
  | nil =>
      obtain ⟨inferer, hinferer⟩ := Option.isSome_iff_exists.mp hop
      rw [latest?_append, hinferer, Option.map_some, Option.some_or] at h
      rw [← Option.some.inj h]
      exact Nat.lt_succ_self _
  | append_singleton rest last ih =>
      rw [← List.cons_append, ← List.append_assoc, latest?_append] at h
      rcases Option.or_eq_some_iff.mp h with hlast | ⟨-, hrest⟩
      · obtain ⟨inferer, -, rfl⟩ := Option.map_eq_some_iff.mp hlast
        simp only [List.length_append, List.length_cons]
        omega
      · exact ih hrest

/-- After an operation that puts an inferer into the slot, only this one and those
put in later are run. -/
theorem Session.length_lt_of_mem_runs {s : Session m} {before : List (Operation m)}
    {op : Operation m} (hop : op.inferer?.isSome) (between rest : List (Operation m))
    {number : Nat} (h : number ∈ (s.callsFrom (before ++ op :: between) rest).flatMap Call.runs) :
    before.length < number := by
  induction rest generalizing between with
  | nil => simp [callsFrom] at h
  | cons next rest ih =>
      rw [callsFrom, List.flatMap_append, List.mem_append] at h
      rcases h with h | h
      · simp only [List.mem_flatMap, List.mem_map, Call.runs, callAfter] at h
        obtain ⟨_, ⟨question, -, rfl⟩, latest, hlatest, rfl⟩ := h
        exact length_lt_of_latest? hop (Option.mem_toList.mp hlatest)
      · rw [List.append_assoc, List.cons_append] at h
        exact ih (between ++ [next]) h

/-! ## noting -/

/-- An operation that puts in, where it puts in an inferer, one that notes its
runs. -/
def Operation.noting (k : Nat) :
    Operation (StateM σ) → Operation (StateM (σ × List Nat))
  | set inferer => set (inferer.noting k)
  | inferNameWith run => inferNameWith fun e r => note k (run e r)
  | inferTypeWith run => inferTypeWith fun e r => note k (run e r)
  | inferName run => inferName fun e => note k (run e)
  | inferType run => inferType fun e => note k (run e)
  | rename name => rename name
  | retype type => retype type
  | changeResolver change => changeResolver change
  | ask question => ask question

/-- Operations with numbers from `k` on. -/
def Operation.notingAll (k : Nat) :
    List (Operation (StateM σ)) → List (Operation (StateM (σ × List Nat)))
  | [] => []
  | op :: ops => op.noting k :: notingAll (k + 1) ops

/-- A session whose inferer, which has the number 0, notes its runs. -/
def Session.noting (s : Session (StateM σ)) : Session (StateM (σ × List Nat)) :=
  ⟨s.element.noting 0, s.resolver⟩

/-- A call of an inferer that notes its runs. -/
def Call.noting (c : Call (StateM σ)) : Call (StateM (σ × List Nat)) :=
  ⟨c.question, c.latest?.map fun (number, inferer) => (number, inferer.noting number),
    c.field, c.resolver⟩

namespace Operation

theorem notingAll_append (k : Nat) (ops : List (Operation (StateM σ)))
    (op : Operation (StateM σ)) :
    notingAll k (ops ++ [op]) = notingAll k ops ++ [op.noting (k + ops.length)] := by
  induction ops generalizing k with
  | nil => rfl
  | cons head ops ih =>
      rw [List.cons_append, notingAll, ih, notingAll, List.cons_append, List.length_cons,
        Nat.add_right_comm, Nat.add_assoc k]

@[simp] theorem length_notingAll (k : Nat) (ops : List (Operation (StateM σ))) :
    (notingAll k ops).length = ops.length := by
  induction ops generalizing k with
  | nil => rfl
  | cons op ops ih => rw [notingAll, List.length_cons, List.length_cons, ih]

theorem inferer?_noting (k : Nat) (op : Operation (StateM σ)) :
    (op.noting k).inferer? = op.inferer?.map (Inferer.noting k) := by
  cases op <;> rfl

theorem name?_noting (k : Nat) (op : Operation (StateM σ)) : (op.noting k).name? = op.name? := by
  cases op <;> rfl

theorem type?_noting (k : Nat) (op : Operation (StateM σ)) : (op.noting k).type? = op.type? := by
  cases op <;> rfl

theorem change_noting (k : Nat) (op : Operation (StateM σ)) :
    (op.noting k).change = op.change := by
  cases op <;> rfl

theorem question?_noting (k : Nat) (op : Operation (StateM σ)) :
    (op.noting k).question? = op.question? := by
  cases op <;> rfl

end Operation

namespace Session

variable (s : Session (StateM σ))

/-- The inferer that was put in last is the one that notes with its own number. -/
theorem latest?_noting (done : List (Operation (StateM σ))) :
    s.noting.latest? (Operation.notingAll 1 done) =
      (s.latest? done).map fun (number, inferer) => (number, inferer.noting number) := by
  induction done using List.reverseRecOn with
  | nil =>
      rw [Operation.notingAll, latest?_nil, latest?_nil, noting, Element.noting, Option.map_map,
        Option.map_map]
      rfl
  | append_singleton done op ih =>
      rw [Operation.notingAll_append, latest?_append, latest?_append, ih,
        Operation.inferer?_noting, Operation.length_notingAll]
      cases op.inferer? <;> simp [Nat.add_comm]

theorem fieldAfter_noting (done : List (Operation (StateM σ))) :
    s.noting.fieldAfter (Operation.notingAll 1 done) = s.fieldAfter done := by
  induction done using List.reverseRecOn with
  | nil => rfl
  | append_singleton done op ih =>
      rw [Operation.notingAll_append, fieldAfter_append, fieldAfter_append, ih,
        Operation.name?_noting, Operation.type?_noting]

theorem resolverAfter_noting (done : List (Operation (StateM σ))) :
    s.noting.resolverAfter (Operation.notingAll 1 done) = s.resolverAfter done := by
  induction done using List.reverseRecOn with
  | nil => rfl
  | append_singleton done op ih =>
      rw [Operation.notingAll_append, resolverAfter_append, resolverAfter_append, ih,
        Operation.change_noting]

/-- The calls are those of the inferers that note their runs. -/
theorem callsFrom_noting (done ops : List (Operation (StateM σ))) :
    s.noting.callsFrom (Operation.notingAll 1 done) (Operation.notingAll (1 + done.length) ops) =
      (s.callsFrom done ops).map Call.noting := by
  induction ops generalizing done with
  | nil => rfl
  | cons op ops ih =>
      have hcall : s.noting.callAfter (Operation.notingAll 1 done) =
          Call.noting ∘ s.callAfter done := by
        funext question
        rw [callAfter, latest?_noting, fieldAfter_noting, resolverAfter_noting]
        rfl
      have hrest := ih (done ++ [op])
      rw [Operation.notingAll_append, List.length_append, List.length_singleton,
        ← Nat.add_assoc] at hrest
      rw [Operation.notingAll, callsFrom, callsFrom, hrest, Operation.question?_noting, hcall,
        List.map_append, List.map_map]

end Session

/-! ## the list -/

theorem stateM_run_bind {α β : Type} (x : StateM σ α) (f : α → StateM σ β) (w : σ) :
    (x >>= f).run w = (f (x.run w).1).run (x.run w).2 := rfl

theorem stateM_run_map {α β : Type} (f : α → β) (x : StateM σ α) (w : σ) :
    (f <$> x).run w = (f (x.run w).1, (x.run w).2) := rfl

/-- A call replies the same, and adds the number of the inferer that it runs. -/
theorem Call.reply_noting (c : Call (StateM σ)) (w : σ) (log : List Nat) :
    c.noting.reply.run (w, log) = ((c.reply.run w).1, ((c.reply.run w).2, log ++ c.runs)) := by
  obtain ⟨question, latest?, field, resolver⟩ := c
  cases latest? with
  | none =>
      rw [runs, Option.toList_none, List.map_nil, List.append_nil]
      cases question <;> rfl
  | some latest =>
      obtain ⟨number, inferer⟩ := latest
      cases inferer <;> rfl

/-- Calls reply the same, and add the numbers of the inferers that they run. -/
theorem Call.replies_noting (cs : List (Call (StateM σ))) (w : σ) (log : List Nat) :
    ((cs.map Call.noting).mapM Call.reply).run (w, log) =
      (((cs.mapM Call.reply).run w).1,
        (((cs.mapM Call.reply).run w).2, log ++ cs.flatMap Call.runs)) := by
  induction cs generalizing w log with
  | nil =>
      rw [List.flatMap_nil, List.append_nil]
      rfl
  | cons c cs ih =>
      simp only [List.map_cons, List.mapM_cons, stateM_run_bind, c.reply_noting, ih,
        List.flatMap_cons, List.append_assoc]
      rfl

/-- **Each question runs the inferer that was put in last, once, and no other.**

1. Operations come to the calls of their questions, made in their order, and to
   the session that they lead to; a call is of the inferer that was put in last,
   on the element and the resolver of that moment.
2. Inferers that note their runs note one for each call where there is one.
3. What was in the slot before an operation puts an inferer there is not run
   after it.
4. A question leaves the session as it was, and the slot's kind is that of the
   inferer that was put in last. -/
theorem Session.play_latest (s : Session (StateM σ)) (ops : List (Operation (StateM σ))) :
    s.play ops = (fun replies => (replies, s.after ops)) <$> (s.calls ops).mapM Call.reply ∧
    (∀ w log, (s.noting.play (Operation.notingAll 1 ops)).run (w, log) =
      ((((s.play ops).run w).1.1, s.noting.after (Operation.notingAll 1 ops)),
        (((s.play ops).run w).2, log ++ (s.calls ops).flatMap Call.runs))) ∧
    (∀ before op rest, ops = before ++ op :: rest → op.inferer?.isSome →
      ∀ number ∈ (s.callsFrom (before ++ [op]) rest).flatMap Call.runs,
        before.length < number) ∧
    (∀ question, s.after (ops ++ [.ask question]) = s.after ops) ∧
    (s.after ops).element.slot.activeKind? = (s.latest? ops).map fun latest => latest.2.kind := by
  have hplay : s.play ops =
      (fun replies => (replies, s.after ops)) <$> (s.calls ops).mapM Call.reply := by
    have h := s.play_after [] ops
    rwa [after_nil] at h
  refine ⟨hplay, ?_, ?_, s.after_ask ops, ?_⟩
  · intro w log
    have h := s.noting.play_after [] (Operation.notingAll 1 ops)
    have hcalls := s.callsFrom_noting [] ops
    rw [after_nil] at h
    rw [Operation.notingAll, List.length_nil] at hcalls
    rw [h, hcalls, hplay, stateM_run_map, stateM_run_map, Call.replies_noting]
    rfl
  · intro before op rest _ hop number hnumber
    exact length_lt_of_mem_runs hop [] rest hnumber
  · cases h : s.latest? ops <;> simp [after, Slot.activeKind?, h]

/-- An inferer fails, and another one is put in its place. -/
example :
    let s : Session (StateM Unit) := ⟨.new "id" (.primitive .u64), .default⟩
    let ops : List (Operation (StateM Unit)) :=
      [.ask .resolve, .inferName fun _ => throw (.other "no"), .ask .infer,
        .set (.name fun field => pure (field.name ++ "Key")), .rename "order", .ask .resolve]
    let outcome := (s.noting.play (Operation.notingAll 1 ops)).run ((), [])
    (outcome.1.1, outcome.2.2) =
      ([.ok (some (.simple "number")), .error (.other "no"), .ok (some (.simple "orderKey"))],
        [2, 4]) := by rfl

end DeclGen
