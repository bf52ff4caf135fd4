import TypedSeries.Proofs.Binding
import TypedSeries.Proofs.MemoryMachine

/-!
# The names of the buckets in memory

Which names a store in memory has a bucket of, after commands to its transport, to the stores on it
and to their handles.

1. Most actions of a store and of a handle leave a store in memory as it is
   (`Store.frame_sameMemory`).
2. A command that succeeds adds the name it creates, takes away the name it deletes and leaves all
   others; one that fails leaves all (`Session.renames_perform`).

**Main.** `Session.contains_run`: from its beginning a store in memory has the buckets that were
created and not deleted since (`Standing`).
-/

namespace TypedSeries

/-! ## What leaves a store in memory as it is -/

/-- A store on a store in memory, and a later one on the same with nothing changed in it. -/
def Store.SameMemory (s s' : Store) : Prop :=
  ∀ m, s.transport = .memory m → s'.transport = .memory m

namespace Transport

variable {m : MemoryStore} {t : Transport}

theorem operate_memory {α : Type}
    {inMemory : MemoryStore → Except TransportError (α × MemoryStore)}
    {online : Http.Client → Http.Server → Http.Conversation α}
    (h : ∀ a m', inMemory m = .ok (a, m') → m' = m) :
    (operate inMemory online (.memory m)).2 = .memory m := by
  unfold operate
  dsimp only
  split
  next a m' hm => rw [h a m' hm]
  next => rfl

/-- Asking a store in memory leaves it as it is. -/
theorem memory_of_asked (h : Asked (.memory m) t) : t = .memory m := by
  cases h with
  | ping => rfl
  | list => rfl
  | query plan now => exact operate_memory fun _ _ h => select_keeps h
  | queryText bucket text now =>
    refine operate_memory fun a m' h => ?_
    split at h
    · exact select_keeps h
    · cases h
  | noteAll es => rfl

end Transport

theorem Store.frame_sameMemory : Frame SameMemory where
  refl _ _ h := h
  trans h h' m hm := h' m (h m hm)
  registered _ _ _ _ h := h
  asked _ _ h _ hm := Transport.memory_of_asked (hm ▸ h)

/-! ## Commands that create and delete -/

namespace Command

/-- Whether a command asks for a bucket of a name to be there. -/
def creates (name : String) : Command → Bool
  | .transport c => (c.creates? name).isSome
  | .store _ (.createBucket d _) => d.name = name
  | _ => false

/-- Whether a command asks for a bucket of a name not to be there. -/
def deletes (name : String) : Command → Bool
  | .transport c => c.deletes name
  | .store _ (.deleteBucket d) => d.name = name
  | _ => false

/-- A command that asks for neither. -/
def Quiet (c : Command) : Prop := ∀ name, c.creates name = false ∧ c.deletes name = false

end Command

/-- A command and what it was answered with. -/
abbrev Answered := Command × Except CommandError Answer

namespace Answered

/-- A command that created a bucket of a name, or found it. -/
def Creates (name : String) (e : Answered) : Prop :=
  e.1.creates name = true ∧ ∃ a, e.2 = .ok a

/-- A command after which there is no bucket of a name. -/
def Deletes (name : String) (e : Answered) : Prop :=
  e.1.deletes name = true ∧ ∃ a, e.2 = .ok a

theorem creates_ok_iff {name : String} {c : Command} {a : Answer} :
    Creates name (c, .ok a) ↔ c.creates name = true := and_iff_left ⟨a, rfl⟩

theorem deletes_ok_iff {name : String} {c : Command} {a : Answer} :
    Deletes name (c, .ok a) ↔ c.deletes name = true := and_iff_left ⟨a, rfl⟩

end Answered

/-- A bucket was created, and has not been deleted since. -/
def Standing (log : List Answered) (name : String) : Prop :=
  ∃ before e after, log = before ++ e :: after ∧ e.Creates name ∧ ∀ e' ∈ after, ¬ e'.Deletes name

theorem not_standing_nil (name : String) : ¬ Standing [] name := by
  rintro ⟨before, e, after, hlog, -⟩
  simp at hlog

/-- **One more command.** -/
theorem standing_concat {log : List Answered} {e : Answered} {name : String} :
    Standing (log ++ [e]) name ↔ e.Creates name ∨ Standing log name ∧ ¬ e.Deletes name := by
  constructor
  · rintro ⟨before, e', after, hlog, hcreates, hafter⟩
    rcases List.eq_nil_or_concat after with rfl | ⟨rest, last, rfl⟩
    · left
      obtain ⟨-, hlast⟩ := List.append_inj' hlog rfl
      cases hlast
      exact hcreates
    · right
      rw [List.concat_eq_append] at hlog hafter
      have hsplit : log ++ [e] = (before ++ e' :: rest) ++ [last] := by rw [hlog]; simp
      obtain ⟨hfront, hlast⟩ := List.append_inj' hsplit rfl
      cases hlast
      exact ⟨⟨before, e', rest, hfront, hcreates, fun e' he' =>
        hafter e' (List.mem_append_left _ he')⟩, hafter e (by simp)⟩
  · rintro (hcreates | ⟨⟨before, e', after, rfl, hcreates, hafter⟩, hkept⟩)
    · exact ⟨log, e, [], rfl, hcreates, fun _ h => nomatch h⟩
    · refine ⟨before, e', after ++ [e], by simp, hcreates, fun e'' h => ?_⟩
      rcases List.mem_append.1 h with h | h
      · exact hafter e'' h
      · rw [List.mem_singleton.1 h]
        exact hkept

/-! ## One command -/

theorem MemoryStore.contains_create (m : MemoryStore) (name other : String) (schema : Schema) :
    NameMap.contains (create m name schema) other = true ↔
      name = other ∨ NameMap.contains m other = true := by
  unfold create
  split
  next hfound =>
    refine ⟨.inr, fun h => h.elim (fun he => ?_) id⟩
    rwa [← he]
  next =>
    rw [NameMap.contains, NameMap.get?_insert]
    by_cases h : name = other
    · simp [h]
    · rw [if_neg h]
      simp [h, NameMap.contains]

/-- A transport is a store in memory that has buckets of the names that another has. -/
def Transport.HasNames (m : MemoryStore) (t : Transport) : Prop :=
  ∃ m', t = .memory m' ∧ ∀ name, NameMap.contains m' name = NameMap.contains m name

theorem Transport.HasNames.of_eq {m : MemoryStore} {t : Transport} (h : t = .memory m) :
    t.HasNames m := ⟨m, h, fun _ => rfl⟩

/-- Writing leaves the names as they are. -/
theorem Transport.hasNames_write (bucket : String) (points : List Point) (now : Int64)
    (m : MemoryStore) : HasNames m (write bucket points now (.memory m)).2 := by
  unfold write operate MemoryStore.write?
  cases hb : NameMap.get? m bucket with
  | none =>
    simp only [hb, Option.map_none]
    exact .of_eq rfl
  | some b =>
    simp only [hb, Option.map_some]
    refine ⟨_, rfl, fun name => ?_⟩
    rw [NameMap.contains, NameMap.get?_insert, NameMap.contains]
    split
    next he => rw [← he, hb]; rfl
    next => rfl

/-- What a command that was answered does to the names of the buckets in memory. -/
def Answered.Renames (e : Answered) (m : MemoryStore) (t : Transport) : Prop :=
  ∃ m', t = .memory m' ∧ ∀ name, NameMap.contains m' name = true ↔
    e.Creates name ∨ NameMap.contains m name = true ∧ ¬ e.Deletes name

namespace Answered

variable {e : Answered} {m : MemoryStore}

/-- A command that neither creates nor deletes leaves the names as they are. -/
theorem Renames.of_hasNames {t : Transport} (hcreates : ∀ name, ¬ e.Creates name)
    (hdeletes : ∀ name, ¬ e.Deletes name) (h : t.HasNames m) : e.Renames m t := by
  obtain ⟨m', rfl, h⟩ := h
  refine ⟨m', rfl, fun name => ?_⟩
  rw [h, or_iff_right (hcreates name), and_iff_left (hdeletes name)]

theorem Renames.of_error {c : Command} {error : CommandError} :
    Renames (c, .error error) m (.memory m) :=
  .of_hasNames (fun _ ⟨_, _, h⟩ => nomatch h) (fun _ ⟨_, _, h⟩ => nomatch h) (.of_eq rfl)

theorem Renames.create {c : Command} {bucket : String} (hcreates : ∀ name, c.creates name = true ↔
    bucket = name) (hdeletes : ∀ name, c.deletes name = false) (schema : Schema) (a : Answer) :
    Renames (c, .ok a) m (.memory (MemoryStore.create m bucket schema)) := by
  refine ⟨_, rfl, fun name => ?_⟩
  rw [MemoryStore.contains_create, creates_ok_iff, deletes_ok_iff, hcreates, hdeletes]
  simp

theorem Renames.erase {c : Command} {bucket : String} (hcreates : ∀ name, c.creates name = false)
    (hdeletes : ∀ name, c.deletes name = true ↔ bucket = name) (a : Answer) :
    Renames (c, .ok a) m (.memory (NameMap.erase m bucket)) := by
  refine ⟨_, rfl, fun name => ?_⟩
  rw [NameMap.contains, NameMap.get?_erase, creates_ok_iff, deletes_ok_iff, hcreates, hdeletes]
  by_cases h : bucket = name <;> simp [h, NameMap.contains]

end Answered

/-- Commands to a store in memory that create or delete succeed. -/
theorem TransportCommand.ok_of_replies {c : TransportCommand} {now : Int64} {table : Buckets}
    {reply : Except CommandError Answer} {name : String} (h : c.Replies now table reply)
    (hc : c.deletes name = true ∨ (c.creates? name).isSome = true) : ∃ a, reply = .ok a := by
  cases c with
  | create other schema => exact ⟨_, h⟩
  | delete other => exact ⟨_, h⟩
  | _ => exact hc.elim (fun h => nomatch h) fun h => nomatch h

/-- In memory a bucket is created unless its declaration has a fault or is in conflict. -/
theorem Store.createBucket_memory {s : Store} {m : MemoryStore} (hm : s.transport = .memory m)
    (d : Declaration) :
    (∃ h r, createBucket d s =
      (.ok h, ⟨s.engine, .memory (MemoryStore.create m d.name h.recordType.schema), r⟩)) ∨
    ∃ e r, createBucket d s = (.error e, ⟨s.engine, .memory m, r⟩) := by
  obtain ⟨engine, transport, registry⟩ := s
  obtain rfl : transport = .memory m := hm
  rw [createBucket_eq]
  cases handleOf d with
  | error e => exact .inr ⟨_, registry, rfl⟩
  | ok h =>
    dsimp only
    obtain ⟨e | b, r⟩ := registry.register h.recordType
    · exact .inr ⟨_, registry, rfl⟩
    · dsimp only
      rw [Transport.noteAll_memory, Transport.ensure_memory_eq]
      exact .inl ⟨h, r, rfl⟩

theorem Store.deleteBucket_memory {s : Store} {m : MemoryStore} (hm : s.transport = .memory m)
    (d : Declaration) : deleteBucket d s =
      (.ok (NameMap.contains m d.name), ⟨s.engine, .memory (NameMap.erase m d.name),
        s.registry⟩) := by
  have hdelete : onTransport (Transport.delete d.name) s =
      (.ok (NameMap.contains m d.name), ⟨s.engine, .memory (NameMap.erase m d.name),
        s.registry⟩) := by
    rw [onTransport_apply, hm]
    rfl
  unfold deleteBucket
  rw [bind_apply, hdelete]
  cases NameMap.contains m d.name <;> rfl

namespace Session

variable {s : Session} {m : MemoryStore} {α : Type}

theorem runStore_sameMemory (hm : s.transport = .memory m) {action : StoreAction α}
    (h : action.Within Store.SameMemory) (place : Nat) (answer : α → Answer) :
    (s.runStore place action answer).2.transport = .memory m := by
  unfold runStore
  split
  next => exact hm
  next store hs =>
    obtain ⟨r, -, rfl⟩ := Option.map_eq_some_iff.1 hs
    exact h _ m hm

theorem runBinding_sameMemory (hm : s.transport = .memory m)
    {action : StoreAction (Option Handle)} (h : action.Within Store.SameMemory) (place : Nat)
    (keptAs : String) : (s.runBinding place keptAs action).2.transport = .memory m := by
  unfold runBinding
  split
  next => exact hm
  next store hs =>
    obtain ⟨r, -, rfl⟩ := Option.map_eq_some_iff.1 hs
    have ht := h ⟨s.engine, s.transport, r⟩ m hm
    generalize action ⟨s.engine, s.transport, r⟩ = p at ht
    obtain ⟨e | (_ | handle), store'⟩ := p <;> exact ht

/-- A command to the transport. -/
theorem renames_transport (hm : s.transport = .memory m) (now : Int64) (c : TransportCommand) :
    Answered.Renames (.transport c, (s.perform now (.transport c)).1) m
      (s.perform now (.transport c)).2.transport := by
  obtain ⟨m', hstep, htable, hreply⟩ := advances_perform hm now c
  refine ⟨m', by rw [hstep], fun name => ?_⟩
  have hok : c.deletes name = true ∨ (c.creates? name).isSome = true →
      ∃ a, (s.perform now (.transport c)).1 = .ok a := TransportCommand.ok_of_replies hreply
  rw [NameMap.contains, htable, TransportCommand.act_apply]
  show _ ↔ ((c.creates? name).isSome = true ∧ _) ∨ (NameMap.get? m name).isSome = true ∧
    ¬ (c.deletes name = true ∧ _)
  cases hdeletes : c.deletes name with
  | true =>
    have hcreates : (c.creates? name).isSome = false := by
      cases c with
      | delete => rfl
      | _ => cases hdeletes
    simp [hcreates, hok (.inl hdeletes)]
  | false =>
    cases hb : NameMap.get? m name with
    | some b => simp
    | none =>
      cases hcreates : c.creates? name with
      | none => simp
      | some schema => simp [hok (.inr (by rw [hcreates]; rfl))]

theorem renames_createBucket (hm : s.transport = .memory m) (place : Nat) (d : Declaration)
    (keptAs : String) : Answered.Renames (.store place (.createBucket d keptAs),
      (s.performStore place (.createBucket d keptAs)).1) m
      (s.performStore place (.createBucket d keptAs)).2.transport := by
  unfold performStore runBinding
  cases hs : s.store? (s.registryPlace place) with
  | none =>
    dsimp only
    rw [hm]
    exact .of_error
  | some store =>
    obtain ⟨r, -, rfl⟩ := Option.map_eq_some_iff.1 hs
    have hmap : (some <$> Store.createBucket d) ⟨s.engine, s.transport, r⟩ = _ :=
      bind_apply (Store.createBucket d) (fun h => pure (some h)) _
    dsimp only
    rw [hmap]
    rcases Store.createBucket_memory (s := ⟨s.engine, s.transport, r⟩) hm d with
      ⟨h, r', hcreate⟩ | ⟨e, r', hcreate⟩
    · have hcreates (name : String) : Command.creates name
          (.store place (.createBucket d keptAs)) = true ↔ d.name = name := decide_eq_true_iff
      rw [hcreate]
      exact .create hcreates (fun _ => rfl) _ _
    · rw [hcreate]
      exact .of_error

theorem renames_deleteBucket (hm : s.transport = .memory m) (place : Nat) (d : Declaration) :
    Answered.Renames (.store place (.deleteBucket d),
      (s.performStore place (.deleteBucket d)).1) m
      (s.performStore place (.deleteBucket d)).2.transport := by
  unfold performStore runStore
  cases hs : s.store? (s.registryPlace place) with
  | none =>
    dsimp only
    rw [hm]
    exact .of_error
  | some store =>
    obtain ⟨r, -, rfl⟩ := Option.map_eq_some_iff.1 hs
    have hdeletes (name : String) : Command.deletes name (.store place (.deleteBucket d)) = true ↔
        d.name = name := decide_eq_true_iff
    dsimp only
    rw [Store.deleteBucket_memory (s := ⟨s.engine, s.transport, r⟩) hm]
    exact .erase (fun _ => rfl) hdeletes _

/-- A quiet command after which the names are the same. -/
theorem renames_of_hasNames {c : Command} (hc : c.Quiet) {r : Except CommandError Answer}
    {t : Transport} (ht : t.HasNames m) : Answered.Renames (c, r) m t := by
  refine .of_hasNames (fun name h => ?_) (fun name h => ?_) ht
  · exact absurd h.1 (by rw [(hc name).1]; exact Bool.false_ne_true)
  · exact absurd h.1 (by rw [(hc name).2]; exact Bool.false_ne_true)

theorem hasNames_addAll (hm : s.transport = .memory m) (place : Nat) (h : Handle)
    (records : List Row) (now : Int64) (answer : Bool → Answer) :
    (s.runStore place (h.addAll records now) answer).2.transport.HasNames m := by
  unfold runStore
  cases hs : s.store? place with
  | none => exact .of_eq hm
  | some store =>
    obtain ⟨r, -, rfl⟩ := Option.map_eq_some_iff.1 hs
    dsimp only
    rw [Handle.addAll, Store.onTransport_apply]
    dsimp only [withStore]
    rw [hm]
    exact Transport.hasNames_write _ _ now m

theorem renames_handle (hm : s.transport = .memory m) (now : Int64) (key : String)
    (c : HandleCommand) : Answered.Renames (.handle key c, (s.perform now (.handle key c)).1) m
      (s.perform now (.handle key c)).2.transport := by
  have hframe := Store.frame_sameMemory
  refine renames_of_hasNames (fun _ => ⟨rfl, rfl⟩) ?_
  cases hk : s.handles.get? key with
  | none =>
    rw [perform_handle_of_none hk]
    exact .of_eq hm
  | some p =>
    obtain ⟨place, h⟩ := p
    rw [perform_handle hk]
    cases c with
    | addAll rows =>
      unfold performHandle
      dsimp only
      split
      next records _ => exact hasNames_addAll hm place h records now _
      next => exact .of_eq hm
    | execute select => exact .of_eq (runStore_sameMemory hm (hframe.execute h select now) _ _)
    | query select => exact .of_eq (runStore_sameMemory hm (hframe.query h select now) _ _)
    | rawQuery text => exact .of_eq (runStore_sameMemory hm (hframe.rawQuery h text now) _ _)
    | describe => exact .of_eq hm

/-- A store's command that asks and registers. -/
theorem renames_runStore (hm : s.transport = .memory m) {c : Command} (hc : c.Quiet)
    {action : StoreAction α} (h : action.Within Store.SameMemory) (place : Nat)
    (answer : α → Answer) : Answered.Renames (c, (s.runStore place action answer).1) m
      (s.runStore place action answer).2.transport :=
  renames_of_hasNames hc (.of_eq (runStore_sameMemory hm h place answer))

/-- **One command** adds the name it creates and takes away the name it deletes, if it succeeds. -/
theorem renames_perform (hm : s.transport = .memory m) (now : Int64) (c : Command) :
    Answered.Renames (c, (s.perform now c).1) m (s.perform now c).2.transport := by
  have hframe := Store.frame_sameMemory
  cases c with
  | transport c => exact renames_transport hm now c
  | store place c =>
    cases c with
    | createBucket d keptAs => exact renames_createBucket hm place d keptAs
    | deleteBucket d => exact renames_deleteBucket hm place d
    | healthy => exact renames_runStore hm (fun _ => ⟨rfl, rfl⟩) hframe.healthy _ _
    | register d => exact renames_runStore hm (fun _ => ⟨rfl, rfl⟩) (hframe.register d) _ _
    | collect ds => exact renames_runStore hm (fun _ => ⟨rfl, rfl⟩) (hframe.collect ds) _ _
    | getBucket d keptAs =>
      exact renames_of_hasNames (fun _ => ⟨rfl, rfl⟩)
        (.of_eq (runBinding_sameMemory hm (hframe.getBucket d) _ keptAs))
    | getBuckets => exact renames_runStore hm (fun _ => ⟨rfl, rfl⟩) hframe.getBuckets _ _
    | summary => exact renames_runStore hm (fun _ => ⟨rfl, rfl⟩) hframe.summary _ _
  | handle key c => exact renames_handle hm now key c
  | registry place c =>
    refine renames_of_hasNames (fun _ => ⟨rfl, rfl⟩) (.of_eq ?_)
    cases hr : s.registries[s.registryPlace place]? with
    | none => rw [perform_registry_of_none hr]; exact hm
    | some r =>
      rw [perform_registry hr, hm]
      rfl

/-! ## Runs -/

/-- The commands of a run and their answers. -/
def log (s : Session) : List (Int64 × Command) → List Answered
  | [] => []
  | (now, c) :: steps => (c, (s.perform now c).1) :: (s.perform now c).2.log steps

theorem log_append (s : Session) (steps more : List (Int64 × Command)) :
    s.log (steps ++ more) = s.log steps ++ (s.run steps).log more := by
  induction steps generalizing s with
  | nil => rfl
  | cons e steps ih => exact congrArg (_ :: ·) (ih (s.perform e.1 e.2).2)

/-- **A run.** From its beginning a store in memory has the buckets that were created and not
deleted since. -/
theorem contains_run (hm : s.transport = .memory .empty) (steps : List (Int64 × Command)) :
    ∃ m, (s.run steps).transport = .memory m ∧
      ∀ name, NameMap.contains m name = true ↔ Standing (s.log steps) name := by
  induction steps using List.reverseRecOn with
  | nil =>
    refine ⟨.empty, hm, fun name => iff_of_false ?_ (not_standing_nil name)⟩
    exact Bool.false_ne_true
  | append_singleton steps e ih =>
    obtain ⟨m, hrun, hnames⟩ := ih
    obtain ⟨now, c⟩ := e
    obtain ⟨m', hstep, hnames'⟩ := renames_perform hrun now c
    refine ⟨m', by rw [run_append]; exact hstep, fun name => ?_⟩
    rw [hnames', hnames, log_append]
    exact standing_concat.symm

end Session

end TypedSeries
