import CallMigration.CallSite.Binding

/-!
# What a call binds

A call site is made only where the number of arguments fits and the receiver lies inside the call.
That is why binding never looks for an argument behind the last one: the parameters get all
arguments in order, and the last one of variable length gets all that are left.

* `CallSite.bindings_cases`: what is bound, for each kind of declaration;
* `CallSite.make_binds`: which parts make a call site, and what its parameters are bound to.
-/

namespace CallMigration

/-- Whether so many arguments are too few, or not as many as a declaration of fixed length has. -/
def Target.Misfits (t : Target) (arguments : Nat) : Prop :=
  (t.isVarargs = false ∧ arguments ≠ t.params.length) ∨
    (t.isVarargs = true ∧ arguments < t.params.length - 1)

theorem Target.misfits_iff {t : Target} {arguments : Nat} :
    t.Misfits arguments ↔ t.accepts arguments = false := by
  unfold accepts Misfits
  cases t.isVarargs with
  | false => simp
  | true =>
      simp only [Bool.true_eq_false, false_and, false_or, true_and, if_true,
        decide_eq_false_iff_not]
      omega

theorem CallKind.receiverWithin_iff {kind : CallKind} {call : TextRange} :
    kind.receiverWithin call = true ↔
      ∀ receiver, kind.receiver? = some receiver → call.contains receiver.range = true := by
  rw [receiverWithin]
  cases kind.receiver? <;> simp

theorem CallKind.exists_of_receiverWithin {kind : CallKind} {call : TextRange}
    (h : ¬ kind.receiverWithin call = true) :
    ∃ receiver, kind.receiver? = some receiver ∧ call.contains receiver.range = false := by
  rw [receiverWithin] at h
  cases hreceiver : kind.receiver? with
  | none => simp [hreceiver] at h
  | some receiver => exact ⟨receiver, rfl, by simpa [hreceiver] using h⟩

namespace CallSite

section Make

variable {kind : CallKind} {target : Target} {arguments : List String} {call : Expression}
  {statement : Option TextRange} {site : CallSite}

theorem make_eq_ok (h : make kind target arguments call statement = .ok site) :
    site.kind = kind ∧ site.target = target ∧ site.arguments = arguments ∧ site.call = call ∧
      site.statement = statement := by
  unfold make at h
  split at h
  · split at h
    · obtain rfl := Except.ok.inj h
      exact ⟨rfl, rfl, rfl, rfl, rfl⟩
    · cases h
  · cases h

/-- A number of arguments that does not fit is reported first. -/
theorem make_eq_arityMismatch_iff :
    make kind target arguments call statement =
        .error (.arityMismatch target.id target.params.length arguments.length target.isVarargs) ↔
      target.Misfits arguments.length := by
  rw [Target.misfits_iff]
  unfold make
  split
  · next hfit => split <;> simp [hfit]
  · next hfit => simp [hfit]

/-- A receiver outside the call is reported if the number of arguments fits. -/
theorem make_eq_receiverOutside_iff {inner outer : TextRange} :
    make kind target arguments call statement = .error (.receiverOutside inner outer) ↔
      ¬ target.Misfits arguments.length ∧ outer = call.range ∧
        ∃ receiver, kind.receiver? = some receiver ∧ receiver.range = inner ∧
          call.range.contains receiver.range = false := by
  rw [Target.misfits_iff]
  unfold make
  split
  · next hfit =>
      split
      · next hwithin =>
          rw [CallKind.receiverWithin_iff] at hwithin
          constructor
          · intro h
            cases h
          · rintro ⟨-, -, receiver, hreceiver, -, houtside⟩
            rw [hwithin receiver hreceiver] at houtside
            cases houtside
      · next hwithin =>
          obtain ⟨receiver, hreceiver, houtside⟩ := CallKind.exists_of_receiverWithin hwithin
          simp only [hreceiver, Option.map_some, Option.getD_some, Except.error.injEq,
            CallSiteError.receiverOutside.injEq]
          constructor
          · rintro ⟨rfl, rfl⟩
            exact ⟨by simp [hfit], rfl, receiver, rfl, rfl, houtside⟩
          · rintro ⟨-, rfl, other, hother, rfl, -⟩
            rw [Option.some.inj hother]
            exact ⟨rfl, rfl⟩
  · next hfit => simp [hfit]

/-- A call site is made of all parts that fit. -/
theorem exists_make_iff :
    (∃ site, make kind target arguments call statement = .ok site) ↔
      ¬ target.Misfits arguments.length ∧
        ∀ receiver, kind.receiver? = some receiver →
          call.range.contains receiver.range = true := by
  rw [Target.misfits_iff, ← CallKind.receiverWithin_iff]
  unfold make
  split
  · next hfit =>
      split
      · next hwithin => simp [hfit, hwithin]
      · next houtside => simp [houtside]
  · next hfit => simp [hfit]

end Make

section Bindings

theorem map_name_positional {params arguments : List String}
    (h : params.length ≤ arguments.length) :
    (positional params arguments).map (·.name) = params := by
  induction params generalizing arguments with
  | nil => rfl
  | cons param params ih =>
      cases arguments with
      | nil => simp at h
      | cons argument arguments =>
          have hrest := ih (Nat.le_of_succ_le_succ h)
          simpa [positional] using hrest

theorem map_value_positional (params arguments : List String) :
    (positional params arguments).map (·.value) = arguments.take params.length := by
  induction params generalizing arguments with
  | nil => rfl
  | cons param params ih =>
      cases arguments with
      | nil => rfl
      | cons argument arguments => simpa [positional] using ih arguments

theorem emptyVarargs_of_mem_positional {params arguments : List String} :
    ∀ b ∈ positional params arguments, b.emptyVarargs = false := by
  intro b hb
  rw [positional, List.mem_iff_getElem] at hb
  obtain ⟨i, hi, rfl⟩ := hb
  rw [List.getElem_zipWith]

/-- Parameters are bound to the arguments that there are parameters for. -/
theorem positional_append {params leading : List String} (h : leading.length = params.length)
    (rest : List String) : positional params (leading ++ rest) = positional params leading := by
  induction params generalizing leading with
  | nil => simp [positional]
  | cons param params ih =>
      cases leading with
      | nil => simp at h
      | cons argument leading =>
          have hrest := ih (by simpa using h)
          simpa [positional] using hrest

section Varargs

variable {site : CallSite} {names : List String} {name : String}
  (hvarargs : site.target.isVarargs = true) (hparams : site.target.params = names ++ [name])
include hvarargs hparams

/-- There are arguments for all parameters but the last. -/
theorem length_names_le : names.length ≤ site.arguments.length := by
  have hfit := site.arguments_fit
  rw [Target.accepts, hvarargs, if_pos rfl, decide_eq_true_eq, hparams, List.length_append,
    List.length_singleton] at hfit
  omega

theorem hasEmptyVarargs_eq :
    site.hasEmptyVarargs = (site.arguments.drop names.length).isEmpty := by
  have hplace := length_names_le hvarargs hparams
  rw [hasEmptyVarargs, hvarargs, Bool.true_and, hparams, List.length_append,
    List.length_singleton, Bool.eq_iff_iff, beq_iff_eq, List.isEmpty_iff, List.drop_eq_nil_iff]
  omega

/-- The parameter of variable length is bound to all arguments behind those for the others. -/
theorem varargsBinding_eq :
    site.varargsBinding name = ⟨name, ", ".intercalate (site.arguments.drop names.length),
      (site.arguments.drop names.length).isEmpty⟩ := by
  have hlength : site.target.params.length - 1 = names.length := by simp [hparams]
  rw [varargsBinding, hasEmptyVarargs_eq hvarargs hparams, hlength]
  cases site.arguments.drop names.length <;> rfl

end Varargs

/-- **What is bound.** A declaration of fixed length binds its parameters to the arguments. One of
variable length binds nothing if it has no parameters, and otherwise the last one to all arguments
behind those for the others. -/
theorem bindings_cases (site : CallSite) :
    (site.target.isVarargs = false ∧ site.arguments.length = site.target.params.length ∧
        site.bindings = positional site.target.params site.arguments) ∨
      (site.target.isVarargs = true ∧ site.target.params = [] ∧ site.bindings = []) ∨
      (site.target.isVarargs = true ∧ ∃ names name leading rest,
        site.target.params = names ++ [name] ∧ site.arguments = leading ++ rest ∧
          leading.length = names.length ∧
          site.bindings =
            positional names leading ++ [⟨name, ", ".intercalate rest, rest.isEmpty⟩]) := by
  unfold bindings
  cases hvarargs : site.target.isVarargs with
  | false =>
      left
      have hfit := site.arguments_fit
      rw [Target.accepts, hvarargs, if_neg (by simp), beq_iff_eq] at hfit
      exact ⟨rfl, hfit, rfl⟩
  | true =>
      right
      rcases List.eq_nil_or_concat site.target.params with hnone | ⟨names, name, hparams⟩
      · left
        simp [hnone, positional]
      · right
        rw [List.concat_eq_append] at hparams
        have hlength : (site.arguments.take names.length).length = names.length :=
          List.length_take_of_le (length_names_le hvarargs hparams)
        refine ⟨rfl, names, name, _, _, hparams, (List.take_append_drop _ _).symm, hlength, ?_⟩
        have hleading := positional_append hlength (site.arguments.drop names.length)
        rw [List.take_append_drop] at hleading
        simp only [hparams, List.getLast?_concat, List.dropLast_concat]
        rw [hleading, varargsBinding_eq hvarargs hparams]

/-- There is one binding for each parameter, in order. -/
theorem map_name_bindings (site : CallSite) : site.bindings.map (·.name) = site.target.params := by
  rcases bindings_cases site with ⟨-, hlength, hbindings⟩ | ⟨-, hnone, hbindings⟩ |
    ⟨-, names, name, leading, rest, hparams, -, hlength, hbindings⟩
  · rw [hbindings, map_name_positional (Nat.le_of_eq hlength.symm)]
  · rw [hbindings, hnone]
    rfl
  · rw [hbindings, hparams, List.map_append, map_name_positional (Nat.le_of_eq hlength.symm)]
    rfl

/-- The arguments from a place on. There are none from a place behind the end on. -/
def argumentsFrom? (site : CallSite) (place : Nat) : Option (List String) :=
  if place ≤ site.arguments.length then some (site.arguments.drop place) else none

/-- The bindings, where all arguments from a place on are only to be had if there is such a
place. -/
def bindings? (site : CallSite) : Option (List Binding) :=
  match site.target.isVarargs, site.target.params.getLast? with
  | true, some name =>
      let leading := positional site.target.params.dropLast site.arguments
      if site.hasEmptyVarargs then some (leading ++ [⟨name, "", true⟩])
      else
        (site.argumentsFrom? (site.target.params.length - 1)).map fun rest =>
          leading ++ [⟨name, ", ".intercalate rest, false⟩]
  | _, _ => some (positional site.target.params site.arguments)

/-- The arguments for a parameter of variable length begin at a place that there is. -/
theorem bindings?_eq (site : CallSite) : site.bindings? = some site.bindings := by
  unfold bindings? bindings
  cases hvarargs : site.target.isVarargs with
  | false => rfl
  | true =>
      cases site.target.params.getLast? with
      | none => rfl
      | some name =>
          have hfit := site.arguments_fit
          rw [Target.accepts, hvarargs, if_pos rfl, decide_eq_true_eq] at hfit
          have hplace : site.target.params.length - 1 ≤ site.arguments.length := by omega
          simp only [varargsBinding, argumentsFrom?, if_pos hplace, Option.map_some]
          split <;> rfl

/-- What the parameters of a call are bound to. -/
structure BindsAll (site : CallSite) : Prop where
  /-- No argument is looked for behind the last one. -/
  total : site.bindings? = some site.bindings
  names : site.bindings.map (·.name) = site.target.params
  fixed : site.target.isVarargs = false →
    site.bindings.map (·.value) = site.arguments ∧ ∀ b ∈ site.bindings, b.emptyVarargs = false
  /-- The last parameter gets all arguments that the others leave, and it says so if there are
  none. -/
  varargs : site.target.isVarargs = true → site.target.params ≠ [] →
    ∃ leading rest, site.arguments = leading ++ rest ∧
      leading.length = site.target.params.length - 1 ∧
      site.bindings.map (·.value) = leading ++ [", ".intercalate rest] ∧
      site.bindings.map (·.emptyVarargs) = List.replicate leading.length false ++ [rest.isEmpty]

theorem map_emptyVarargs_positional {params arguments : List String}
    (h : arguments.length = params.length) :
    (positional params arguments).map (·.emptyVarargs) = List.replicate arguments.length false := by
  rw [List.eq_replicate_iff]
  refine ⟨by simp [positional, h], ?_⟩
  intro flag hflag
  obtain ⟨b, hb, rfl⟩ := List.mem_map.mp hflag
  exact emptyVarargs_of_mem_positional b hb

/-- The parameters of every call are bound to all of its arguments. -/
theorem bindsAll (site : CallSite) : site.BindsAll where
  total := bindings?_eq site
  names := map_name_bindings site
  fixed := by
    intro hfixed
    rcases bindings_cases site with ⟨-, hlength, hbindings⟩ | ⟨hvarargs, -⟩ | ⟨hvarargs, -⟩
    · rw [hbindings, map_value_positional, ← hlength, List.take_length]
      exact ⟨rfl, emptyVarargs_of_mem_positional⟩
    · simp [hfixed] at hvarargs
    · simp [hfixed] at hvarargs
  varargs := by
    intro hvarargs hparams
    rcases bindings_cases site with ⟨hfixed, -⟩ | ⟨-, hnone, -⟩ |
      ⟨-, names, name, leading, rest, hnames, harguments, hlength, hbindings⟩
    · simp [hfixed] at hvarargs
    · exact absurd hnone hparams
    · refine ⟨leading, rest, harguments, by simp [hnames, hlength], ?_, ?_⟩
      · rw [hbindings, List.map_append, map_value_positional, ← hlength, List.take_length]
        rfl
      · rw [hbindings, List.map_append, map_emptyVarargs_positional hlength]
        rfl

end Bindings

/-- **What makes a call site, and what it binds.** The parts of a call make no call site exactly if
the number of arguments does not fit, which is reported first, or the receiver lies outside the
call. A call site has the parts that it is made of, and its parameters are bound to all of its
arguments. -/
theorem make_binds (kind : CallKind) (target : Target) (arguments : List String)
    (call : Expression) (statement : Option TextRange) :
    (make kind target arguments call statement =
        .error (.arityMismatch target.id target.params.length arguments.length target.isVarargs) ↔
      target.Misfits arguments.length) ∧
    (∀ inner outer,
      make kind target arguments call statement = .error (.receiverOutside inner outer) ↔
        ¬ target.Misfits arguments.length ∧ outer = call.range ∧
          ∃ receiver, kind.receiver? = some receiver ∧ receiver.range = inner ∧
            call.range.contains receiver.range = false) ∧
    ((∃ site, make kind target arguments call statement = .ok site) ↔
      ¬ target.Misfits arguments.length ∧
        ∀ receiver, kind.receiver? = some receiver →
          call.range.contains receiver.range = true) ∧
    ∀ site, make kind target arguments call statement = .ok site →
      (site.kind = kind ∧ site.target = target ∧ site.arguments = arguments ∧ site.call = call ∧
          site.statement = statement) ∧
        site.BindsAll :=
  ⟨make_eq_arityMismatch_iff, fun _ _ => make_eq_receiverOutside_iff, exists_make_iff,
    fun site h => ⟨make_eq_ok h, bindsAll site⟩⟩

end CallSite

end CallMigration
