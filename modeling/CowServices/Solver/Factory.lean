import CowServices.Basic.Primitives

/-! The solver crate's command line and `solver::create`, which builds the internal solvers in
the order configured and appends one HTTP solver per external solver given as `name|url|account`.
-/
namespace CowServices.Solver

variable {Key Url : Type}

-----------------------------------------------------------------------------------------
-- Solver accounts
-----------------------------------------------------------------------------------------

/-- The readers the command line's values go through, none of which is in the repository's
files: `PrivateKey::from_str` and `H160::from_str`, with their errors as `{}` renders
them, and `Url::parse`, with its error likewise.
-/
structure Readers (Key Url : Type) where
  privateKey : String → Except String Key
  address : String → Except String H160
  url : String → Except String Url

/-- `SolverAccountArg`: a private key, or an address whose key the node holds. -/
inductive SolverAccountArg (Key : Type)
  | privateKey (key : Key)
  | address (address : H160)
  deriving DecidableEq

/-- Modelled from the spec: `ethcontract::Account` is not in the repository's files; an
offline key signing for a chain id, or `Account::Local`, an address the node signs for.
-/
inductive Account (Key : Type)
  | offline (key : Key) (chainId : Option UInt64)
  | localNode (address : H160) (chainId : Option UInt64)
  deriving DecidableEq

/-- `SolverAccountArg::into_account`. -/
def SolverAccountArg.intoAccount (arg : SolverAccountArg Key) (chainId : UInt64) : Account Key :=
  match arg with
  | .privateKey key => .offline key (some chainId)
  | .address holder => .localNode holder none

/-- `SolverAccountArg::from_str`: a private key if the text reads as one, else an address;
failing both, the address error as context of the key error, under the message naming
both forms.
-/
def SolverAccountArg.fromStr (readers : Readers Key Url) (s : String)
    : Except Error (SolverAccountArg Key) :=
  match readers.privateKey s with
  | .ok key => .ok (.privateKey key)
  | .error pkErr =>
      match readers.address s with
      | .ok holder => .ok (.address holder)
      | .error addrErr =>
          .error (((Error.msg ("could not parse as private key: " ++ pkErr)).context
            ("could not parse as address: " ++ addrErr)).context
            "invalid solver account, it is neither a private key or an Ethereum address")

-----------------------------------------------------------------------------------------
-- External solvers
-----------------------------------------------------------------------------------------

/-- `ExternalSolverArg`. -/
structure ExternalSolverArg (Key Url : Type) where
  name : String
  url : Url
  account : SolverAccountArg Key

/-- `str::split` by a character: the texts between its occurrences, empty ones included. -/
def splitText (s : String) (separator : Char) : List String :=
  (s.toList.splitOn separator).map String.mk

/-- `parts.next().ok_or_else(|| anyhow!(missing))`: the next part, or the error naming the
part that is missing.
-/
def nextPart (parts : List String) (missing : String) : Except Error (String × List String) :=
  match parts with
  | [] => .error (.msg missing)
  | part :: rest => .ok (part, rest)

/-- `ExternalSolverArg::from_str`: the first three `|`-separated parts, the url read before
the account, each error under the context of its part.
-/
def ExternalSolverArg.fromStr (readers : Readers Key Url) (s : String)
    : Except Error (ExternalSolverArg Key Url) := do
  let (name, parts) ← nextPart (splitText s '|') "missing name"
  let (url, parts) ← nextPart parts "missing url"
  let (account, _) ← nextPart parts "missing account"
  let url ← (readers.url url).mapError fun err => (Error.msg err).context "parse url"
  let account ← (SolverAccountArg.fromStr readers account).mapError (·.context "parse account")
  pure ⟨name, url, account⟩

-----------------------------------------------------------------------------------------
-- Splitting on the separator
-----------------------------------------------------------------------------------------

/-- Splitting gives one part more than there are separators, by induction on the text. -/
theorem length_splitOnP {α : Type} (p : α → Bool) (l : List α)
    : (l.splitOnP p).length = l.countP p + 1 := by
  induction l with
  | nil => rfl
  | cons a rest ih => by_cases h : p a <;> simp [List.splitOnP_cons, h, ih, List.length_modifyHead]

/-- A text without the separator has no character the split stops at. -/
theorem apart_of_not_mem {xs : List Char} {separator : Char} (clean : separator ∉ xs)
    : ∀ x ∈ xs, ¬(x == separator) = true :=
  fun _ mem same => clean (eq_of_beq same ▸ mem)

/-- A text without the separator, then nothing or the separator and anything, splits into
the text first.
-/
theorem splitOn_append_of_separated {xs tail : List Char} {separator : Char}
    (clean : separator ∉ xs) (separated : tail = [] ∨ tail.head? = some separator)
    : ∃ rest, (xs ++ tail).splitOn separator = xs :: rest := by
  rcases separated with rfl | first
  · exact ⟨[], by
      simpa [List.splitOn] using List.splitOnP_eq_single _ _ (apart_of_not_mem clean)⟩
  · obtain _ | ⟨_, rest⟩ := tail
    · cases first
    · cases first
      exact ⟨_, List.splitOnP_first _ _ (apart_of_not_mem clean) separator
        (beq_self_eq_true _) rest⟩

/-- `name|url|account`, followed by nothing or by `|` and anything, splits into the three
texts first, when none of them holds a `|`.
-/
theorem splitText_fields {name url account tail : String}
    (clean : '|' ∉ name.toList ∧ '|' ∉ url.toList ∧ '|' ∉ account.toList)
    (separated : tail = "" ∨ tail.toList.head? = some '|')
    : ∃ rest, splitText (name ++ "|" ++ url ++ "|" ++ account ++ tail) '|'
      = name :: url :: account :: rest := by
  obtain ⟨rest, third⟩ : ∃ rest, (account.toList ++ tail.toList).splitOn '|'
      = account.toList :: rest :=
    splitOn_append_of_separated clean.2.2 (separated.imp (fun empty => by rw [empty]; rfl) id)
  refine ⟨rest.map String.mk, ?_⟩
  have text : (name ++ "|" ++ url ++ "|" ++ account ++ tail).toList
      = name.toList ++ '|' :: (url.toList ++ '|' :: (account.toList ++ tail.toList)) := by
    simp [String.toList]
  simp only [splitText, text, List.splitOn,
    List.splitOnP_first _ _ (apart_of_not_mem clean.1) '|' rfl,
    List.splitOnP_first _ _ (apart_of_not_mem clean.2.1) '|' rfl]
  simp only [List.splitOn, String.toList] at third
  simp [third]

-----------------------------------------------------------------------------------------
-- Reading an external solver
-----------------------------------------------------------------------------------------

/-- Past the split, the url is read, then the account. -/
theorem ExternalSolverArg.fromStr_of_split {readers : Readers Key Url} {s name url account : String}
    {rest : List String} (split : splitText s '|' = name :: url :: account :: rest)
    : ExternalSolverArg.fromStr readers s
      = (do
          let url ← (readers.url url).mapError fun err => (Error.msg err).context "parse url"
          let account ← (SolverAccountArg.fromStr readers account).mapError
            (·.context "parse account")
          pure ⟨name, url, account⟩) := by
  simp [ExternalSolverArg.fromStr, split, nextPart, bind, Except.bind]

/-- For every three texts without a `|` and every reader, `name|url|account` reads as exactly
the external solver of that name with the url and account read from the other two, whatever
follows. By the split's first three parts.
-/
theorem externalSolverArg_fromStr_eq_ok (readers : Readers Key Url)
    (name url account tail : String)
    (clean : '|' ∉ name.toList ∧ '|' ∉ url.toList ∧ '|' ∉ account.toList)
    (separated : tail = "" ∨ tail.toList.head? = some '|') (arg : ExternalSolverArg Key Url)
    : ExternalSolverArg.fromStr readers (name ++ "|" ++ url ++ "|" ++ account ++ tail) = .ok arg
      ↔ arg.name = name ∧ readers.url url = .ok arg.url
        ∧ SolverAccountArg.fromStr readers account = .ok arg.account := by
  obtain ⟨rest, split⟩ := splitText_fields clean separated
  rw [ExternalSolverArg.fromStr_of_split split]
  obtain ⟨argName, argUrl, argAccount⟩ := arg
  cases readers.url url <;> cases SolverAccountArg.fromStr readers account
  <;> simp [Except.mapError, bind, Except.bind, pure, Except.pure, eq_comm]

/-- The private key of the crate's test `parse_external_solver_arg`, 32 bytes of 0x42. -/
def testPrivateKey : String := "0x4242424242424242424242424242424242424242424242424242424242424242"

/-- Readers for the crate's tests: a key is "0x" and 64 digits, kept as its text; no
address is read; a url is kept as its text.
-/
def testReaders : Readers String String where
  privateKey s := if s.length = 66 then .ok s else .error "invalid length"
  address _ := .error "invalid character"
  url := .ok

/-- The crate's test `parse_external_solver_arg`: the name, the url and the private key are
read back.
-/
theorem parse_external_solver_arg_reads_fields
    : ExternalSolverArg.fromStr testReaders
        ("name" ++ "|" ++ "http://solver.com/" ++ "|" ++ testPrivateKey ++ "")
      = .ok ⟨"name", "http://solver.com/", .privateKey testPrivateKey⟩ :=
  (externalSolverArg_fromStr_eq_ok testReaders "name" "http://solver.com/" testPrivateKey ""
    (by decide) (.inl rfl) _).mpr ⟨rfl, rfl, by decide⟩

/-- An error under a context is not an error of one other message. -/
theorem context_ne_msg {err : Error} {context message : String} (differ : context ≠ message)
    : err.context context ≠ .msg message := by
  intro same
  exact differ (List.head_eq_of_cons_eq (congrArg Error.messages same))

/-- Past the split, every error is the url's or the account's, under the context naming it. -/
theorem ExternalSolverArg.fromStr_error_of_split {readers : Readers Key Url}
    {s name url account : String} {rest : List String} {err : Error}
    (split : splitText s '|' = name :: url :: account :: rest)
    (failed : ExternalSolverArg.fromStr readers s = .error err)
    : ∃ inner : Error,
      err = inner.context "parse url" ∨ err = inner.context "parse account" := by
  cases readUrl : readers.url url <;> cases readAccount : SolverAccountArg.fromStr readers account
  <;> simp [ExternalSolverArg.fromStr_of_split split, readUrl, readAccount, Except.mapError, bind,
    Except.bind, pure, Except.pure] at failed
  <;> subst failed
  · exact ⟨_, .inl rfl⟩
  · exact ⟨_, .inl rfl⟩
  · exact ⟨_, .inr rfl⟩

/-- For every text and every reader, the part reported missing is the url exactly when the
text has no `|`, the account exactly when it has one, and never the name: splitting always
gives a first part. By the number of parts, one more than the separators.
-/
theorem externalSolverArg_fromStr_missing_parts (readers : Readers Key Url) (s : String)
    : (ExternalSolverArg.fromStr readers s = .error (.msg "missing url")
        ↔ s.toList.count '|' = 0)
      ∧ (ExternalSolverArg.fromStr readers s = .error (.msg "missing account")
        ↔ s.toList.count '|' = 1)
      ∧ ExternalSolverArg.fromStr readers s ≠ .error (.msg "missing name") := by
  have parts : (splitText s '|').length = s.toList.count '|' + 1 := by
    simpa [splitText, List.splitOn] using length_splitOnP (· == '|') s.toList
  rcases split : splitText s '|' with _ | ⟨name, _ | ⟨url, _ | ⟨account, rest⟩⟩⟩
  · simp [split] at parts
  · simp [split] at parts
    simp [ExternalSolverArg.fromStr, split, nextPart, bind, Except.bind, Error.msg, parts]
  · simp [split] at parts
    simp [ExternalSolverArg.fromStr, split, nextPart, bind, Except.bind, Error.msg, parts]
  · simp only [split, List.length_cons] at parts
    refine ⟨⟨fun failed => ?_, by omega⟩, ⟨fun failed => ?_, by omega⟩,
      fun failed => ?_⟩
    all_goals
      obtain ⟨inner, same | same⟩ := ExternalSolverArg.fromStr_error_of_split split failed
      <;> exact absurd same.symm (context_ne_msg (by decide))

-----------------------------------------------------------------------------------------
-- Building the solvers
-----------------------------------------------------------------------------------------

/-- `SolverType`: the internal solvers the command line can name. -/
inductive SolverType
  | naive
  | baseline
  | mip
  | cowDexAg
  | oneInch
  | paraswap
  | zeroEx
  | quasimodo
  | balancerSor
  deriving DecidableEq, Repr

/-- Modelled from the spec: `http_solver::SolverConfig` is not in the repository's files;
the field `create` sets, every other field keeping its default.
-/
structure SolverConfig where
  useInternalBuffers : Option Bool
  deriving DecidableEq

/-- The solvers `create` wraps in a `SingleOrderSolver`; a Balancer SOR solver holds the
vault it trades through.
-/
inductive SingleOrderSolving
  | oneInch
  | zeroEx
  | paraswap
  | balancerSor (vault : H160)
  deriving DecidableEq

/-- A solver `create` builds, as what sets it apart: its account, and for an HTTP solver its
API's url, name and configuration and whether it filters out orders not fee-connected.
-/
inductive BuiltSolver (Key Url : Type)
  | naive (account : Account Key)
  | baseline (account : Account Key)
  | http (account : Account Key) (url : Url) (name : String) (config : SolverConfig)
      (filterNonFeeConnectedOrders : Bool)
  | singleOrder (inner : SingleOrderSolving) (account : Account Key)

/-- `Solver::account`. -/
def BuiltSolver.account : BuiltSolver Key Url → Account Key
  | .naive account => account
  | .baseline account => account
  | .http account _ _ _ _ => account
  | .singleOrder _ account => account

/-- The arguments of `create` that decide what it builds, the constructors that can fail given
by their outcome; the clients, contracts and tuning values it passes on unread are left out.
-/
structure CreateArgs (Key Url : Type) where
  mipSolverUrl : Url
  cowDexAgSolverUrl : Url
  quasimodoSolverUrl : Url
  vaultContract : Option H160
  chainId : UInt64
  quasimodoUsesInternalBuffers : Bool
  mipUsesInternalBuffers : Bool
  oneInchWithDisabledProtocols : Account Key → Except Error Unit
  zeroExNew : Account Key → Except Error Unit
  balancerSorApiNew : Except Error Unit

/-- The closure `create` maps each configured solver through; `none` for the panic of
`ZeroExSolver::new(..).unwrap()`. The Balancer SOR solver reads the vault before building
its API.
-/
def createSolver (args : CreateArgs Key Url) (account : Account Key)
    : SolverType → Option (Except Error (BuiltSolver Key Url))
  | .naive => some (.ok (.naive account))
  | .baseline => some (.ok (.baseline account))
  | .mip => some (.ok (.http account args.mipSolverUrl "Mip"
      ⟨some args.mipUsesInternalBuffers⟩ true))
  | .cowDexAg => some (.ok (.http account args.cowDexAgSolverUrl "CowDexAg" ⟨none⟩ false))
  | .quasimodo => some (.ok (.http account args.quasimodoSolverUrl "Quasimodo"
      ⟨some args.quasimodoUsesInternalBuffers⟩ true))
  | .oneInch =>
      some ((args.oneInchWithDisabledProtocols account).map fun _ => .singleOrder .oneInch account)
  | .zeroEx =>
      match args.zeroExNew account with
      | .ok _ => some (.ok (.singleOrder .zeroEx account))
      | .error _ => none
  | .paraswap => some (.ok (.singleOrder .paraswap account))
  | .balancerSor => some do
      let vault ← match args.vaultContract with
        | some vault => .ok vault
        | none => .error (.msg "missing Balancer Vault deployment for SOR solver")
      let _ ← args.balancerSorApiNew
      pure (.singleOrder (.balancerSor vault) account)

/-- `iter.map(f).collect::<Result<Vec<_>>>()` with a closure that may panic (`none`): the
items are mapped in order until the first error, which is the result, and no item after it
is mapped.
-/
def collectResults {α β : Type} (f : α → Option (Except Error β))
    : List α → Option (Except Error (List β))
  | [] => some (.ok [])
  | item :: rest =>
      match f item with
      | none => none
      | some (.error err) => some (.error err)
      | some (.ok value) => (collectResults f rest).map (·.map (value :: ·))

/-- The HTTP solver `create` builds for an external solver: its account for the chain, the
configuration of the MIP solver's buffers, and the cache of all orders.
-/
def createExternalSolver (args : CreateArgs Key Url) (solver : ExternalSolverArg Key Url)
    : BuiltSolver Key Url :=
  .http (solver.account.intoAccount args.chainId) solver.url solver.name
    ⟨some args.mipUsesInternalBuffers⟩ false

/-- `solver::create`: the configured solvers, then the external ones. -/
def create (args : CreateArgs Key Url) (solvers : List (Account Key × SolverType))
    (externalSolvers : List (ExternalSolverArg Key Url))
    : Option (Except Error (List (BuiltSolver Key Url))) :=
  (collectResults (fun entry => createSolver args entry.1 entry.2) solvers).map
    (·.map (· ++ externalSolvers.map (createExternalSolver args)))

-----------------------------------------------------------------------------------------
-- Where the collection stops
-----------------------------------------------------------------------------------------

/-- Whether a mapped item gave a value. -/
def givesValue {β : Type} : Option (Except Error β) → Bool
  | some (.ok _) => true
  | _ => false

@[simp] theorem givesValue_ok {β : Type} (value : β)
    : givesValue (some (.ok value : Except Error β)) = true := rfl

@[simp] theorem givesValue_error {β : Type} (err : Error)
    : givesValue (some (.error err : Except Error β)) = false := rfl

@[simp] theorem givesValue_none {β : Type}
    : givesValue (none : Option (Except Error β)) = false := rfl

/-- Mapping the values of an outcome keeps its panic or failure. -/
theorem map_eq_failure {β γ : Type} (g : β → γ) (result : Option (Except Error β))
    (failure : Option Error)
    : result.map (·.map g) = failure.map .error ↔ result = failure.map .error := by
  rcases result with _ | _ | _ <;> cases failure <;> simp [Except.map]

/-- A collection gives values exactly when every item does, in order; by induction on the
items.
-/
theorem collectResults_eq_ok {α β : Type} (f : α → Option (Except Error β)) (items : List α)
    (values : List β)
    : collectResults f items = some (.ok values)
      ↔ List.Forall₂ (fun item value => f item = some (.ok value)) items values := by
  induction items generalizing values with
  | nil => cases values <;> simp [collectResults]
  | cons item rest ih =>
      simp only [List.forall₂_cons_left_iff, ← ih, collectResults]
      rcases f item with _ | _ | value
      · simp
      · simp
      · rcases collectResults f rest with _ | _ | others <;> simp [Except.map, eq_comm]

/-- A collection panics or fails exactly as the first item not mapped to a value does,
every item before it mapped to one; by induction on the items.
-/
theorem collectResults_eq_failure {α β : Type} (f : α → Option (Except Error β))
    (failure : Option Error) (items : List α)
    : collectResults f items = failure.map .error
      ↔ ∃ item, items.find? (fun item => !givesValue (f item)) = some item
        ∧ f item = failure.map .error := by
  induction items with
  | nil => cases failure <;> simp [collectResults]
  | cons item rest ih =>
      simp only [collectResults, List.find?_cons]
      rcases mapped : f item with _ | _ | value
      · cases failure <;> simp [mapped]
      · cases failure <;> simp [mapped, eq_comm]
      · simp [mapped, map_eq_failure, ih]

-----------------------------------------------------------------------------------------
-- What `create` builds
-----------------------------------------------------------------------------------------

/-- Every solver built settles with the account configured for it. -/
theorem createSolver_account {args : CreateArgs Key Url} {account : Account Key}
    {solverType : SolverType} {solver : BuiltSolver Key Url}
    (built : createSolver args account solverType = some (.ok solver))
    : solver.account = account := by
  cases solverType
  case oneInch =>
    cases outcome : args.oneInchWithDisabledProtocols account
    <;> simp [createSolver, outcome, Except.map] at built
    exact built ▸ rfl
  case zeroEx =>
    cases outcome : args.zeroExNew account <;> simp [createSolver, outcome] at built
    exact built ▸ rfl
  case balancerSor =>
    cases vault : args.vaultContract <;> cases api : args.balancerSorApiNew
    <;> simp [createSolver, vault, api, bind, Except.bind, pure, Except.pure] at built
    exact built ▸ rfl
  all_goals
    simp [createSolver] at built
    exact built ▸ rfl

/-- A configured solver is not built exactly when a ZeroEx constructor fails, which panics,
or a 1inch constructor fails, or a Balancer SOR solver lacks the vault or its API, each of
which fails with its error.
-/
theorem createSolver_eq_failure (args : CreateArgs Key Url) (account : Account Key)
    (solverType : SolverType) (failure : Option Error)
    : createSolver args account solverType = failure.map .error
      ↔ (solverType = .zeroEx ∧ failure = none ∧ ∃ err, args.zeroExNew account = .error err)
        ∨ (solverType = .oneInch ∧ ∃ err, failure = some err
          ∧ args.oneInchWithDisabledProtocols account = .error err)
        ∨ (solverType = .balancerSor ∧ ∃ err, failure = some err
          ∧ (args.vaultContract = none
              ∧ err = .msg "missing Balancer Vault deployment for SOR solver"
            ∨ args.vaultContract ≠ none ∧ args.balancerSorApiNew = .error err)) := by
  cases solverType
  case naive | baseline | mip | cowDexAg | paraswap | quasimodo =>
    refine ⟨(fun built => by cases failure <;> cases built), ?_⟩
    rintro (⟨other, -⟩ | ⟨other, -⟩ | ⟨other, -⟩) <;> cases other
  case' oneInch =>
    simp only [createSolver]
    cases args.oneInchWithDisabledProtocols account <;> cases failure
  case' zeroEx =>
    simp only [createSolver]
    cases args.zeroExNew account <;> cases failure
  case' balancerSor =>
    simp only [createSolver]
    cases args.vaultContract <;> cases args.balancerSorApiNew <;> cases failure
  all_goals
    simp only [Except.map, bind, Except.bind, pure, Except.pure, Option.map_none',
      Option.map_some', Option.some.injEq, Except.error.injEq, reduceCtorEq, eq_comm, true_and,
      false_and, and_true, and_false, and_self, exists_false, exists_eq', exists_eq_left',
      exists_eq_right, ne_eq, not_true_eq_false, not_false_eq_true, or_false, false_or, or_self]

/-- `create` panics or fails exactly as the first configured solver it cannot build: a ZeroEx
solver panics, a 1inch or Balancer SOR solver fails with its error, and external solvers
never fail. By the collection's stop at its first failure.
-/
theorem create_fails_as_first_unbuilt_solver (args : CreateArgs Key Url)
    (solvers : List (Account Key × SolverType))
    (externalSolvers : List (ExternalSolverArg Key Url))
    (failure : Option Error)
    : create args solvers externalSolvers = failure.map .error
      ↔ ∃ entry : Account Key × SolverType,
        solvers.find? (fun entry => !givesValue (createSolver args entry.1 entry.2)) = some entry
        ∧ ((entry.2 = .zeroEx ∧ failure = none ∧ ∃ err, args.zeroExNew entry.1 = .error err)
          ∨ (entry.2 = .oneInch ∧ ∃ err, failure = some err
            ∧ args.oneInchWithDisabledProtocols entry.1 = .error err)
          ∨ (entry.2 = .balancerSor ∧ ∃ err, failure = some err
            ∧ (args.vaultContract = none
                ∧ err = .msg "missing Balancer Vault deployment for SOR solver"
              ∨ args.vaultContract ≠ none ∧ args.balancerSorApiNew = .error err))) := by
  rw [create, map_eq_failure, collectResults_eq_failure]
  simp only [← createSolver_eq_failure]

/-- Whenever `create` builds, its first solvers settle with the configured accounts in order,
and the rest are one HTTP solver per external solver, with its url, name and account. By the
collection's values, one per item.
-/
theorem create_lists_configured_then_external (args : CreateArgs Key Url)
    (solvers : List (Account Key × SolverType))
    (externalSolvers : List (ExternalSolverArg Key Url))
    (built : List (BuiltSolver Key Url))
    (created : create args solvers externalSolvers = some (.ok built))
    : (built.take solvers.length).map BuiltSolver.account = solvers.map Prod.fst
      ∧ List.Forall₂ (fun (external : ExternalSolverArg Key Url) solver =>
          ∃ account, solver = .http account external.url external.name
              ⟨some args.mipUsesInternalBuffers⟩ false
            ∧ (∀ key, external.account = .privateKey key
                → account = .offline key (some args.chainId))
            ∧ ∀ holder, external.account = .address holder → account = .localNode holder none)
        externalSolvers (built.drop solvers.length) := by
  unfold create at created
  rcases collected : collectResults (fun entry => createSolver args entry.1 entry.2) solvers
    with _ | _ | internal
  <;> simp only [collected, Option.map_none', Option.map_some', Option.some.injEq, Except.map,
    reduceCtorEq, Except.ok.injEq] at created
  subst created
  have each := (collectResults_eq_ok _ solvers internal).mp collected
  have accounts : internal.map BuiltSolver.account = solvers.map Prod.fst := by
    clear collected
    induction each with
    | nil => rfl
    | cons first _ ih => simp [ih, createSolver_account first]
  rw [each.length_eq, List.take_left, List.drop_left, List.forall₂_map_right_iff,
    List.forall₂_same]
  refine ⟨accounts, fun external _ => ⟨_, rfl, fun key named => ?_, fun holder named => ?_⟩⟩
  all_goals rw [named]; rfl

/-- A deployment whose constructors all succeed, with the vault deployed, on chain 1. -/
def testCreateArgs : CreateArgs String String where
  mipSolverUrl := "http://mip/"
  cowDexAgSolverUrl := "http://cowdexag/"
  quasimodoSolverUrl := "http://quasimodo/"
  vaultContract := some ⟨List.replicate 20 0xba, by simp⟩
  chainId := 1
  quasimodoUsesInternalBuffers := true
  mipUsesInternalBuffers := false
  oneInchWithDisabledProtocols _ := .ok ()
  zeroExNew _ := .ok ()
  balancerSorApiNew := .ok ()

/-- A naive solver settling with the test key, and the external solver of the crate's test:
the naive solver comes first, then an HTTP solver offline for chain 1.
-/
theorem create_test_lists_naive_then_external
    : ∃ built, create testCreateArgs [(.offline testPrivateKey (some 1), .naive)]
          [⟨"name", "http://solver.com/", .privateKey testPrivateKey⟩] = some (.ok built)
      ∧ (built.take 1).map BuiltSolver.account = [.offline testPrivateKey (some 1)]
      ∧ List.Forall₂ (fun (external : ExternalSolverArg String String) solver =>
          ∃ account, solver = .http account external.url external.name
              ⟨some testCreateArgs.mipUsesInternalBuffers⟩ false
            ∧ (∀ key, external.account = .privateKey key
                → account = .offline key (some testCreateArgs.chainId))
            ∧ ∀ holder, external.account = .address holder → account = .localNode holder none)
        [⟨"name", "http://solver.com/", .privateKey testPrivateKey⟩] (built.drop 1) :=
  ⟨_, rfl, create_lists_configured_then_external testCreateArgs
    [(.offline testPrivateKey (some 1), .naive)]
    [⟨"name", "http://solver.com/", .privateKey testPrivateKey⟩] _ rfl⟩

end CowServices.Solver
