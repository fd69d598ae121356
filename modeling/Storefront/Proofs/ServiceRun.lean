import Storefront.Shop.Upload

/-
  Running the shop's services.

  A service is an `ExceptT Error (StateM State)` action: run from a state, it gives an answer
  or a failure, and the state it reached (`x.run.run s`).  A failure keeps the state reached,
  as a store that has already written some rows keeps them.

  Each primitive of the shop gets one equation that says what its run gives, tagged `simp`,
  and `run_bind` threads the state through a `do` block, stopping at the first failure.  Proofs
  about a service then follow the service's own branches and never unfold a primitive.
-/

namespace Storefront.Shop

variable {α β : Type}

/-! ## The monad -/

/-- A run of `x >>= f` is a run of `x`, then, if it answered, a run of `f` from where it
stopped. -/
@[simp] theorem run_bind (x : Service α) (f : α → Service β) (s : State) :
    (x >>= f).run.run s =
      match x.run.run s with
      | (.ok a, s') => (f a).run.run s'
      | (.error e, s') => (.error e, s') := by
  simp only [ExceptT.run_bind, StateT.run_bind]
  rcases x.run.run s with ⟨r, s'⟩
  cases r <;> rfl

@[simp] theorem run_pure (a : α) (s : State) : (pure a : Service α).run.run s = (.ok a, s) :=
  rfl

@[simp] theorem run_throw (e : Error) (s : State) :
    (throw e : Service α).run.run s = (.error e, s) := rfl

@[simp] theorem run_get (s : State) : (get : Service State).run.run s = (.ok s, s) := rfl

@[simp] theorem run_modify (f : State → State) (s : State) :
    (modify f : Service Unit).run.run s = (.ok (), f s) := rfl

@[simp] theorem run_map (f : α → β) (x : Service α) (s : State) :
    (f <$> x).run.run s =
      match x.run.run s with
      | (.ok a, s') => (.ok (f a), s')
      | (.error e, s') => (.error e, s') := by
  simp only [ExceptT.run_map, StateT.run_map]
  rcases x.run.run s with ⟨r, s'⟩
  cases r <;> rfl

/-- A handler runs only on a failure, from the state the failure left. -/
@[simp] theorem run_tryCatch (x : Service α) (h : Error → Service α) (s : State) :
    (tryCatch x h).run.run s =
      match x.run.run s with
      | (.ok a, s') => (.ok a, s')
      | (.error e, s') => (h e).run.run s' := by
  change (ExceptT.tryCatch x h).run.run s =
    match StateT.run x s with
    | (.ok a, s') => (.ok a, s')
    | (.error e, s') => (h e).run.run s'
  simp only [ExceptT.tryCatch, ExceptT.run_mk, StateT.run_bind]
  rcases StateT.run x s with ⟨r, s'⟩
  cases r <;> rfl

/-- A run of a list of services is the run of the first, then of the rest from where it
stopped. -/
theorem run_mapM_cons (f : α → Service β) (a : α) (as : List α) (s : State) :
    ((a :: as).mapM f).run.run s =
      match (f a).run.run s with
      | (.ok b, s') =>
        match (as.mapM f).run.run s' with
        | (.ok bs, s'') => (.ok (b :: bs), s'')
        | (.error e, s'') => (.error e, s'')
      | (.error e, s') => (.error e, s') := by
  rw [List.mapM_cons, run_bind]
  rcases (f a).run.run s with ⟨_ | b, s'⟩
  · rfl
  · simp only [run_bind, run_pure]
    rcases (as.mapM f).run.run s' with ⟨_ | bs, s''⟩ <;> rfl

/-! ## The shop's primitives -/

@[simp] theorem run_require (c : Bool) (e : Error) (s : State) :
    (require c e).run.run s = (if c then .ok () else .error e, s) := by
  cases c <;> rfl

@[simp] theorem run_orFail (o : Option α) (e : Error) (s : State) :
    (orFail o e).run.run s = (match o with | some a => .ok a | none => .error e, s) := by
  cases o <;> rfl

@[simp] theorem run_ofExcept (r : Except Error α) (s : State) : (ofExcept r).run.run s = (r, s) := by
  cases r <;> rfl

/-- A fresh id is the next number, and the count moves on. -/
@[simp] theorem run_freshId (s : State) :
    freshId.run.run s = (.ok (idNumbered (s.issued + 1)), { s with issued := s.issued + 1 }) :=
  rfl

/-- Reading the clock gives its time, and the clock moves on one millisecond. -/
@[simp] theorem run_now (s : State) :
    now.run.run s = (.ok (instantAt s.clock), { s with clock := s.clock + 1 }) := rfl

@[simp] theorem run_withTables (f : Tables → Tables × α) (s : State) :
    (withTables f).run.run s = (.ok (f s.tables).2, { s with tables := (f s.tables).1 }) := rfl

/-- A bucket call always answers, with the bucket's own result; the bucket may change. -/
@[simp] theorem run_withBucket (f : Bucket.Store → Bucket.Store × Except Bucket.Error α)
    (s : State) :
    (withBucket f).run.run s = (.ok (f s.bucket).2, { s with bucket := (f s.bucket).1 }) := rfl

@[simp] theorem run_withStaging (f : Media.Staging → Media.Staging × α) (s : State) :
    (withStaging f).run.run s = (.ok (f s.staging).2, { s with staging := (f s.staging).1 }) :=
  rfl

/-! ## Storing and discarding objects -/

/-- Whether an upload outlasts the time the shop gives it: there is no time at all, or the
bucket stalls at least that long. -/
def State.uploadLate (s : State) : Bool :=
  s.settings.uploadTimeoutMs = 0 ||
    match s.bucket.stall with
    | some ms => s.settings.uploadTimeoutMs ≤ ms
    | none => false

/-- Lateness reads only the settings and the bucket. -/
@[simp] theorem State.uploadLate_mk (s : State) (t : Tables) (st : Media.Staging)
    (clock issued : Nat) :
    ({ tables := t, bucket := s.bucket, staging := st, settings := s.settings, clock,
       issued } : State).uploadLate = s.uploadLate := rfl

/-- An upload that outlasts its time fails without calling the bucket, and so does one whose
staged file is missing; any other reads the staged file and calls the bucket once with its
bytes, passing the answer on. -/
theorem run_ship (key contentType staged : String) (s : State) :
    (ship key contentType staged).run.run s =
      if s.uploadLate then
        (.error (.internal s!"upload of {key} timed out after {Time.spanText s.settings.uploadTimeoutMs}"), s)
      else
        match s.staging.read? staged with
        | none => (.error (Error.ofBucket (.io Media.noSuchFile)), s)
        | some data =>
          match s.bucket.upload key contentType data with
          | (b, .ok url) => (.ok url, { s with bucket := b })
          | (b, .error e) => (.error (Error.ofBucket e), { s with bucket := b }) := by
  -- `ship` tests lateness as `uploadLate` does, by a match of its own on the stall
  unfold ship
  simp only [run_bind, run_get]
  show StateT.run (ExceptT.run (if s.uploadLate = true then _ else _)) s = _
  cases s.uploadLate with
  | true => rfl
  | false =>
    simp only [Bool.false_eq_true, if_false]
    rcases s.staging.read? staged with _ | data
    · rfl
    · simp only [run_bind, run_withBucket]
      rcases s.bucket.upload key contentType data with ⟨b, _ | url⟩ <;> rfl

/-- A discard calls the bucket once and ignores its answer. -/
@[simp] theorem run_discard (key : String) (s : State) :
    (discard key).run.run s = (.ok (), { s with bucket := (s.bucket.delete key).1 }) := rfl

/-! ## Staged files -/

/-- Removing a staged file always goes through. -/
@[simp] theorem run_unstage (name : String) (s : State) :
    (unstage name).run.run s = (.ok (), { s with staging := s.staging.remove name }) := rfl

/-- Staging writes the file; a write that fails removes what it wrote, which leaves the folder
as removing the name from it would, and fails with the system's text. -/
theorem run_stage (name : String) (data : ByteArray) (s : State) :
    (stage name data).run.run s =
      match (s.staging.write name data).2 with
      | .ok () => (.ok (), { s with staging := (s.staging.write name data).1 })
      | .error text => (.error (Error.ofIo text), { s with staging := s.staging.remove name }) := by
  have hremove := Media.Staging.remove_write s.staging name data
  unfold stage
  simp only [run_bind, run_withStaging]
  rcases hw : s.staging.write name data with ⟨st, text | ⟨⟩⟩
  · rw [hw] at hremove
    simp only [run_bind, run_unstage, run_throw, hremove]
  · rfl

/-- A failure while a file is staged removes the staged file. -/
theorem run_orUnstage (name : String) (x : Service α) (s : State) :
    (orUnstage name x).run.run s =
      match x.run.run s with
      | (.ok a, s') => (.ok a, s')
      | (.error e, s') => (.error e, { s' with staging := s'.staging.remove name }) := by
  unfold orUnstage
  simp only [run_tryCatch]
  rcases x.run.run s with ⟨e | a, s'⟩
  · simp only [run_bind, run_unstage, run_throw]
  · rfl

/-! ## Relations a service keeps

A `Guarantee` is a relation between the state a service starts from and the state it leaves,
reflexive and transitive, so that doing nothing keeps it and two steps that keep it make a step
that keeps it.  `Keeps G x` says every run of `x` keeps `G`, whatever it answers; the lemmas
below build it along a `do` block, one primitive at a time. -/

/-- A reflexive and transitive relation between states. -/
structure Guarantee where
  holds : State → State → Prop
  refl : ∀ s, holds s s
  trans : ∀ {s₁ s₂ s₃}, holds s₁ s₂ → holds s₂ s₃ → holds s₁ s₃

/-- The state is left exactly as it was. -/
def Guarantee.unchanged : Guarantee where
  holds s s' := s' = s
  refl _ := rfl
  trans h₁₂ h₂₃ := h₂₃.trans h₁₂

/-- Every run of `x` keeps `G`, whether it answers or fails. -/
def Guarantee.Keeps (G : Guarantee) (x : Service α) : Prop :=
  ∀ s, G.holds s (x.run.run s).2

namespace Guarantee

variable {G H : Guarantee}

theorem keeps_pure (a : α) : G.Keeps (pure a : Service α) := fun s => G.refl s

theorem keeps_throw (e : Error) : G.Keeps (throw e : Service α) := fun s => G.refl s

theorem keeps_get : G.Keeps (get : Service State) := fun s => G.refl s

/-- Nothing runs after a failure. -/
theorem keeps_throw_bind (e : Error) (f : α → Service β) : G.Keeps (throw e >>= f) :=
  fun s => G.refl s

/-- A `do` block keeps a guarantee when its first step does and every continuation does. -/
theorem keeps_bind {x : Service α} {f : α → Service β} (hx : G.Keeps x)
    (hf : ∀ a, G.Keeps (f a)) : G.Keeps (x >>= f) := by
  intro s
  have hs := hx s
  rw [run_bind]
  rcases hrun : x.run.run s with ⟨_ | a, s'⟩
  · rw [hrun] at hs
    exact hs
  · rw [hrun] at hs
    exact G.trans hs (hf a s')

/-- A continuation that reads the state need keep the guarantee only from the state it read. -/
theorem keeps_get_bind {f : State → Service α} (hf : ∀ s, G.holds s ((f s).run.run s).2) :
    G.Keeps (get >>= f) := fun s => by
  rw [run_bind, run_get]
  exact hf s

theorem keeps_map {x : Service α} (f : α → β) (hx : G.Keeps x) : G.Keeps (f <$> x) := by
  intro s
  have hs := hx s
  rw [run_map]
  rcases hrun : x.run.run s with ⟨_ | a, s'⟩ <;> rw [hrun] at hs <;> exact hs

theorem keeps_tryCatch {x : Service α} {h : Error → Service α} (hx : G.Keeps x)
    (hh : ∀ e, G.Keeps (h e)) : G.Keeps (tryCatch x h) := by
  intro s
  have hs := hx s
  rw [run_tryCatch]
  rcases hrun : x.run.run s with ⟨e | a, s'⟩
  · rw [hrun] at hs
    exact G.trans hs (hh e s')
  · rw [hrun] at hs
    exact hs

theorem keeps_require (c : Bool) (e : Error) : G.Keeps (require c e) := by
  intro s
  rw [run_require]
  exact G.refl s

theorem keeps_orFail (o : Option α) (e : Error) : G.Keeps (orFail o e) := by
  intro s
  rw [run_orFail]
  exact G.refl s

theorem keeps_ofExcept (r : Except Error α) : G.Keeps (ofExcept r) := by
  intro s
  rw [run_ofExcept]
  exact G.refl s

theorem keeps_modify {f : State → State} (h : ∀ s, G.holds s (f s)) : G.Keeps (modify f) := h

theorem keeps_now (h : ∀ s : State, G.holds s { s with clock := s.clock + 1 }) : G.Keeps now := h

theorem keeps_freshId (h : ∀ s : State, G.holds s { s with issued := s.issued + 1 }) :
    G.Keeps freshId := h

theorem keeps_withTables {f : Tables → Tables × α}
    (h : ∀ s : State, G.holds s { s with tables := (f s.tables).1 }) : G.Keeps (withTables f) := h

theorem keeps_withBucket {f : Bucket.Store → Bucket.Store × Except Bucket.Error α}
    (h : ∀ s : State, G.holds s { s with bucket := (f s.bucket).1 }) :
    G.Keeps (withBucket f) := h

/-- Requests answered one after another keep what each of them keeps. -/
theorem keeps_mapM {f : α → Service β} (hf : ∀ a, G.Keeps (f a)) :
    ∀ as : List α, G.Keeps (as.mapM f)
  | [] => keeps_pure _
  | a :: as => by
    rw [List.mapM_cons]
    exact keeps_bind (hf a) fun _ => keeps_bind (keeps_mapM hf as) fun _ => keeps_pure _

/-- A stronger guarantee gives a weaker one. -/
theorem Keeps.mono {x : Service α} (hGH : ∀ s s', G.holds s s' → H.holds s s') (hx : G.Keeps x) :
    H.Keeps x := fun s => hGH _ _ (hx s)

/-- A service that leaves the state as it was keeps every guarantee. -/
theorem Keeps.of_unchanged {x : Service α} (hx : unchanged.Keeps x) : G.Keeps x := fun s => by
  rw [show (x.run.run s).2 = s from hx s]
  exact G.refl s

end Guarantee

end Storefront.Shop
