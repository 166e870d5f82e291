import Mathlib.Tactic.Use
import SqlRender.Dialect.Registry

/-!
# Lookups in a registry

A registry remembers what is registered and also what is looked up.  Its answers show nothing
of the latter: after any calls a lookup is answered with the dialect registered last for its
product, or with the built-in one (`Registry.lookups_transparent`).  Only a registration for
a product replaces what is kept for it, so lookups with no such registration in between are
answered with one and the same instance.
-/

namespace SqlRender.Registry

/-! ### Calls and their answers -/

/-- What a registry is asked to do. -/
inductive Call where
  | register (db : Database) (d : Dialect)
  | setDefault (db : Database)
  | dialectFor (db : Database)
  /-- The lookup of a product, or of the default product if there is none. -/
  | dialect (db : Option Database)

namespace Call

/-- Whether a call is a lookup. -/
def isLookup : Call → Bool
  | dialectFor _ | dialect _ => true
  | register .. | setDefault _ => false

/-- The product that a call looks up under a default product. -/
def product? (defaultDb : Database) : Call → Option Database
  | dialectFor db => some db
  | dialect db => some (db.getD defaultDb)
  | register .. | setDefault _ => none

/-- The dialect that a call registers for a product. -/
def registered? (wanted : Database) : Call → Option Dialect
  | register db d => if db = wanted then some d else none
  | setDefault _ | dialectFor _ | dialect _ => none

/-- The default product that a call sets. -/
def newDefault? : Call → Option Database
  | setDefault db => some db
  | register .. | dialectFor _ | dialect _ => none

theorem registered?_of_isLookup {c : Call} (h : c.isLookup = true) (db : Database) :
  c.registered? db = none
  := by
  cases c with
  | register | setDefault => cases h
  | dialectFor | dialect => rfl

theorem newDefault?_of_isLookup {c : Call} (h : c.isLookup = true) :
  c.newDefault? = none
  := by
  cases c with
  | register | setDefault => cases h
  | dialectFor | dialect => rfl

end Call

/-- The answer to a call, if it is a lookup, and the registry after it. -/
def perform (r : Registry) : Call → Option KeptDialect × Registry
  | .register db d => (none, r.register db d)
  | .setDefault db => (none, r.setDefault db)
  | .dialectFor db => (some (r.dialectFor db).1, (r.dialectFor db).2)
  | .dialect db => (some (r.dialect db).1, (r.dialect db).2)

/-- The registry after calls. -/
def after (r : Registry) : List Call → Registry
  | [] => r
  | c :: rest => (r.perform c).2.after rest

/-- The answers to calls. -/
def answers (r : Registry) : List Call → List (Option KeptDialect)
  | [] => []
  | c :: rest => (r.perform c).1 :: (r.perform c).2.answers rest

/-- The answer to the call at a position of a history, which a registry with the default
product `initial` is asked from the beginning. -/
def answer? (initial : Database) (history : List Call) (i : Nat) : Option KeptDialect :=
  ((of initial).answers history)[i]?.join

theorem after_append (r : Registry) (past future : List Call) :
  r.after (past ++ future) = (r.after past).after future
  := by
  induction past generalizing r with
  | nil => rfl
  | cons c rest ih => apply ih

theorem getElem?_answers (r : Registry) (past : List Call) (c : Call) (future : List Call) :
  (r.answers (past ++ c :: future))[past.length]? = some ((r.after past).perform c).1
  := by
  induction past generalizing r with
  | nil => rfl
  | cons e rest ih =>
    simp only [List.cons_append, answers, List.length_cons, List.getElem?_cons_succ]
    apply ih

/-- A call is answered by the registry that the calls before it have left. -/
theorem answer?_append (initial : Database) (past : List Call) (c : Call) (future : List Call) :
  answer? initial (past ++ c :: future) past.length = (((of initial).after past).perform c).1
  := by
  rw [answer?, getElem?_answers]
  rfl

/-- A lookup by either kind of call is the lookup of its product. -/
theorem perform_of_product? {r : Registry} {c : Call} {db : Database}
    (h : c.product? r.defaultDatabase = some db) :
  r.perform c = (some (r.dialectFor db).1, (r.dialectFor db).2)
  := by
  cases c with
  | register | setDefault => cases h
  | dialectFor =>
    obtain rfl := Option.some.inj h
    rfl
  | dialect =>
    obtain rfl := Option.some.inj h
    rfl

/-! ### What a history says -/

/-- The dialect registered last for a product, or the built-in one if none was. -/
def dialectAfter (db : Database) (history : List Call) : Dialect :=
  (history.reverse.findSome? (Call.registered? db)).getD (Dialect.builtIn db)

/-- The default product set last, or the initial one if none was. -/
def defaultAfter (initial : Database) (history : List Call) : Database :=
  (history.reverse.findSome? Call.newDefault?).getD initial

/-- What is found among calls is not found at a lookup. -/
theorem findSome?_filter_isLookup {α : Type} {f : Call → Option α}
    (hf : ∀ c : Call, c.isLookup = true → f c = none) (calls : List Call) :
  (calls.filter fun c => !c.isLookup).findSome? f = calls.findSome? f
  := by
  induction calls with
  | nil => rfl
  | cons c rest ih =>
    cases h : c.isLookup with
    | false => simp [h, ih, List.findSome?_cons]
    | true => simp [h, ih, hf c h]

section

variable {past past' : List Call}
  (h : (past.filter fun c => !c.isLookup) = past'.filter fun c => !c.isLookup)

include h

theorem dialectAfter_congr (db : Database) :
  dialectAfter db past = dialectAfter db past'
  := by
  have hnone : ∀ c : Call, c.isLookup = true → c.registered? db = none :=
    fun c hc => Call.registered?_of_isLookup hc db
  rw [dialectAfter, dialectAfter, ← findSome?_filter_isLookup hnone past.reverse,
    ← findSome?_filter_isLookup hnone past'.reverse, List.filter_reverse, h, List.filter_reverse]

theorem defaultAfter_congr (initial : Database) :
  defaultAfter initial past = defaultAfter initial past'
  := by
  have hnone : ∀ c : Call, c.isLookup = true → c.newDefault? = none :=
    fun c => Call.newDefault?_of_isLookup
  rw [defaultAfter, defaultAfter, ← findSome?_filter_isLookup hnone past.reverse,
    ← findSome?_filter_isLookup hnone past'.reverse, List.filter_reverse, h, List.filter_reverse]

end

/-! ### What a registry keeps -/

theorem kept?_keep (r : Registry) (db : Database) (d : Dialect) (wanted : Database) :
  (r.keep db d).kept? wanted = if db = wanted then some ⟨r.next, d⟩ else r.kept? wanted
  := by
  by_cases h : db = wanted
  · simp [keep, kept?, h]
  · simp only [keep, kept?, List.find?_cons, beq_eq_false_iff_ne.mpr h, List.find?_filter, if_neg h]
    congr 2
    funext entry
    by_cases hentry : entry.1 = wanted
    · simpa [hentry] using fun hdb => h hdb.symm
    · simp [hentry]

theorem dialectFor_of_kept? {r : Registry} {db : Database} {k : KeptDialect}
    (h : r.kept? db = some k) :
  r.dialectFor db = (k, r)
  := by
  simp [dialectFor, h]

theorem dialectFor_of_kept?_eq_none {r : Registry} {db : Database} (h : r.kept? db = none) :
  r.dialectFor db = (⟨r.next, Dialect.builtIn db⟩, r.keep db (Dialect.builtIn db))
  := by
  simp [dialectFor, h]

/-- What a lookup answers with is kept from then on. -/
theorem kept?_dialectFor (r : Registry) (db wanted : Database) :
  (r.dialectFor db).2.kept? wanted
    = if db = wanted then some (r.dialectFor db).1 else r.kept? wanted
  := by
  cases h : r.kept? db with
  | some k =>
    rw [dialectFor_of_kept? h]
    split
    · next hdb => rw [← hdb, h]
    · rfl
  | none =>
    rw [dialectFor_of_kept?_eq_none h]
    apply kept?_keep

theorem kept?_dialectFor_self (r : Registry) (db : Database) :
  (r.dialectFor db).2.kept? db = some (r.dialectFor db).1
  := by
  rw [kept?_dialectFor, if_pos rfl]

/-- The dialect with which a registry would answer the lookup of a product. -/
def dialectOf (r : Registry) (db : Database) : Dialect :=
  ((r.kept? db).map KeptDialect.dialect).getD (Dialect.builtIn db)

theorem dialect_dialectFor (r : Registry) (db : Database) :
  (r.dialectFor db).1.dialect = r.dialectOf db
  := by
  cases h : r.kept? db <;> simp [dialectFor, dialectOf, h]

theorem dialectOf_register (r : Registry) (db : Database) (d : Dialect) (wanted : Database) :
  (r.register db d).dialectOf wanted = if db = wanted then d else r.dialectOf wanted
  := by
  rw [dialectOf, register, kept?_keep]
  split <;> rfl

/-- A lookup changes what is kept, but not the answers to come. -/
theorem dialectOf_dialectFor (r : Registry) (db wanted : Database) :
  (r.dialectFor db).2.dialectOf wanted = r.dialectOf wanted
  := by
  rw [dialectOf, kept?_dialectFor]
  split
  · next hdb =>
    rw [← hdb, ← dialect_dialectFor]
    rfl
  · rfl

theorem defaultDatabase_dialectFor (r : Registry) (db : Database) :
  (r.dialectFor db).2.defaultDatabase = r.defaultDatabase
  := by
  cases h : r.kept? db <;> simp [dialectFor, keep, h]

/-! ### A registry against its history -/

/-- A registry answers as a history says. -/
structure Recalls (initial : Database) (history : List Call) (r : Registry) : Prop where
  defaultDatabase : r.defaultDatabase = defaultAfter initial history
  dialectOf (db : Database) : r.dialectOf db = dialectAfter db history

theorem recalls_of (initial : Database) :
  Recalls initial [] (of initial)
  := ⟨rfl, fun _ => rfl⟩

namespace Recalls

variable {initial : Database} {history : List Call} {r : Registry}

/-- A lookup adds nothing to what a history says. -/
theorem append_lookup (h : Recalls initial history r) {c : Call} (hc : c.isLookup = true)
    (db : Database) :
  Recalls initial (history ++ [c]) (r.dialectFor db).2
  := by
  have hfilter : ((history ++ [c]).filter fun e => !e.isLookup)
      = history.filter fun e => !e.isLookup := by
    simp [hc]
  constructor
  · rw [defaultDatabase_dialectFor, h.defaultDatabase, defaultAfter_congr hfilter]
  · intro wanted
    rw [dialectOf_dialectFor, h.dialectOf, dialectAfter_congr hfilter]

theorem perform (h : Recalls initial history r) (c : Call) :
  Recalls initial (history ++ [c]) (r.perform c).2
  := by
  cases c with
  | register db d =>
    constructor
    · rw [defaultAfter, List.reverse_append]
      exact h.defaultDatabase
    · intro wanted
      rw [dialectAfter, List.reverse_append]
      simp only [Registry.perform, dialectOf_register, h.dialectOf, dialectAfter,
        List.reverse_singleton, List.singleton_append, List.findSome?_cons, Call.registered?]
      split <;> rfl
  | setDefault db =>
    constructor
    · rw [defaultAfter, List.reverse_append]
      rfl
    · intro wanted
      rw [dialectAfter, List.reverse_append]
      exact h.dialectOf wanted
  | dialectFor db => apply h.append_lookup rfl
  | dialect db => apply h.append_lookup rfl

theorem after (h : Recalls initial history r) (calls : List Call) :
  Recalls initial (history ++ calls) (r.after calls)
  := by
  induction calls generalizing history r with
  | nil => rwa [List.append_nil]
  | cons c rest ih =>
    rw [List.append_cons]
    apply ih (h.perform c)

end Recalls

/-- After any history a registry answers as the history says. -/
theorem recalls_after (initial : Database) (history : List Call) :
  Recalls initial history ((of initial).after history)
  := (recalls_of initial).after history

section

variable {initial : Database} {past : List Call} {c : Call} {db : Database}
  (h : c.product? (defaultAfter initial past) = some db)

include h

/-- A lookup in a history is the lookup of its product in the registry of that moment. -/
theorem perform_after :
  ((of initial).after past).perform c
    = (some (((of initial).after past).dialectFor db).1, (((of initial).after past).dialectFor db).2)
  := by
  rw [← (recalls_after initial past).defaultDatabase] at h
  apply perform_of_product? h

theorem answer?_of_product? (future : List Call) :
  answer? initial (past ++ c :: future) past.length
    = some (((of initial).after past).dialectFor db).1
  := by
  rw [answer?_append, perform_after h]

/-- A lookup is answered with the dialect of which the history says that it is in force. -/
theorem map_dialect_answer? (future : List Call) :
  (answer? initial (past ++ c :: future) past.length).map KeptDialect.dialect
    = some (dialectAfter db past)
  := by
  rw [answer?_of_product? h, Option.map_some, dialect_dialectFor,
    (recalls_after initial past).dialectOf]

end

theorem answer?_of_product?_eq_none {initial : Database} {past : List Call} {c : Call}
    (h : c.product? (defaultAfter initial past) = none) (future : List Call) :
  answer? initial (past ++ c :: future) past.length = none
  := by
  rw [answer?_append]
  cases c with
  | register | setDefault => rfl
  | dialectFor | dialect => cases h

/-! ### Instances -/

/-- A call leaves what is kept as it was, or a dialect is kept: one that is registered, or the
built-in one of a product that is looked up for the first time. -/
theorem perform_cases (r : Registry) (c : Call) :
  (∀ db, (r.perform c).2.kept? db = r.kept? db)
    ∨ ∃ db d, (c.registered? db = some d ∨ r.kept? db = none) ∧ (r.perform c).2 = r.keep db d
  := by
  have hlookup : ∀ db, (∀ wanted, (r.dialectFor db).2.kept? wanted = r.kept? wanted)
      ∨ (r.kept? db = none ∧ (r.dialectFor db).2 = r.keep db (Dialect.builtIn db)) := by
    intro db
    cases h : r.kept? db with
    | some k =>
      left
      rw [dialectFor_of_kept? h]
      exact fun _ => rfl
    | none =>
      right
      rw [dialectFor_of_kept?_eq_none h]
      exact ⟨rfl, rfl⟩
  cases c with
  | register db d =>
    right
    use db, d
    exact ⟨.inl (if_pos rfl), rfl⟩
  | setDefault => exact .inl fun _ => rfl
  | dialectFor db =>
    obtain h | ⟨hnone, h⟩ := hlookup db
    · exact .inl h
    · exact .inr ⟨db, _, .inr hnone, h⟩
  | dialect db =>
    obtain h | ⟨hnone, h⟩ := hlookup (db.getD r.defaultDatabase)
    · exact .inl h
    · exact .inr ⟨_, _, .inr hnone, h⟩

/-- What is kept for a product stays until a dialect is registered for it. -/
theorem kept?_perform {r : Registry} {db : Database} {k : KeptDialect} (h : r.kept? db = some k)
    {c : Call} (hc : c.registered? db = none) :
  (r.perform c).2.kept? db = some k
  := by
  obtain hkept | ⟨db', d, hnew, hkeep⟩ := r.perform_cases c
  · rw [hkept, h]
  · have hne : db' ≠ db := by
      rintro rfl
      simp [hc, h] at hnew
    rw [hkeep, kept?_keep, if_neg hne, h]

theorem kept?_after {r : Registry} {db : Database} {k : KeptDialect} (h : r.kept? db = some k)
    {calls : List Call} (hcalls : ∀ c ∈ calls, c.registered? db = none) :
  (r.after calls).kept? db = some k
  := by
  induction calls generalizing r with
  | nil => exact h
  | cons c rest ih =>
    rw [List.forall_mem_cons] at hcalls
    apply ih (kept?_perform h hcalls.1) hcalls.2

section

variable {initial : Database} {past between : List Call} {c c' : Call} {db : Database}
  (h : c.product? (defaultAfter initial past) = some db)

include h

theorem after_lookup :
  (of initial).after (past ++ c :: between)
    = (((of initial).after past).dialectFor db).2.after between
  := by
  rw [after_append, after, perform_after h]

/-- Lookups of one product are answered with one instance if no dialect is registered for it in
between. -/
theorem answer?_of_unregistered
    (h' : c'.product? (defaultAfter initial (past ++ c :: between)) = some db)
    (hbetween : ∀ e ∈ between, e.registered? db = none) (future : List Call) :
  answer? initial (past ++ c :: between ++ c' :: future) (past ++ c :: between).length
    = some (((of initial).after past).dialectFor db).1
  := by
  have hkept := kept?_after (kept?_dialectFor_self ((of initial).after past) db) hbetween
  rw [answer?_of_product? h', after_lookup h, dialectFor_of_kept? hkept]

end

/-! ### The memory for lookups is not seen -/

/-- In every history a lookup is answered with the dialect registered last for its product, or
with the built-in one if none was; two pasts that differ in lookups alone lead to the same
dialect; and lookups of one product with no registration for it in between are answered with
the same instance. -/
theorem lookups_transparent (initial : Database) :
  (∀ past c future db, c.product? (defaultAfter initial past) = some db →
      (answer? initial (past ++ c :: future) past.length).map KeptDialect.dialect
        = some (dialectAfter db past))
    ∧ (∀ past past' c future future',
      (past.filter fun e => !e.isLookup) = (past'.filter fun e => !e.isLookup) →
      (answer? initial (past ++ c :: future) past.length).map KeptDialect.dialect
        = (answer? initial (past' ++ c :: future') past'.length).map KeptDialect.dialect)
    ∧ ∀ past c between c' future db, c.product? (defaultAfter initial past) = some db →
      c'.product? (defaultAfter initial (past ++ c :: between)) = some db →
      (∀ e ∈ between, e.registered? db = none) →
      ∃ k, answer? initial (past ++ c :: (between ++ c' :: future)) past.length = some k
        ∧ answer? initial (past ++ c :: between ++ c' :: future) (past ++ c :: between).length
          = some k
  := by
  refine ⟨?_, ?_, ?_⟩
  · intro past c future db h
    exact map_dialect_answer? h future
  · intro past past' c future future' hpast
    have hdefault := defaultAfter_congr hpast initial
    cases h : c.product? (defaultAfter initial past) with
    | none =>
      have h' := h
      rw [hdefault] at h'
      rw [answer?_of_product?_eq_none h, answer?_of_product?_eq_none h']
    | some db =>
      have h' := h
      rw [hdefault] at h'
      rw [map_dialect_answer? h, map_dialect_answer? h', dialectAfter_congr hpast]
  · intro past c between c' future db h h' hbetween
    use (((of initial).after past).dialectFor db).1
    exact ⟨answer?_of_product? h _, answer?_of_unregistered h h' hbetween future⟩

/-- A dialect without paging, as it may be registered in place of a built-in one. -/
def plainDialect : Dialect :=
  Dialect.common "in_memory" .bare .unpaged

/-- Calls that look up a dialect before it is replaced, and then change the default product. -/
def replacingCalls : List Call :=
  [.dialectFor .mysql, .register .mysql plainDialect, .dialect none, .setDefault .mysql]

/-- The replaced dialect is answered with, whether or not it was looked up before, and a lookup of
another product in between gives no further instance. -/
theorem lookups_transparent_replacingCalls :
  (Call.dialect none).product? (defaultAfter .sqlServer replacingCalls) = some .mysql
    ∧ (answer? .sqlServer (replacingCalls ++ [.dialect none]) 4).map KeptDialect.dialect
      = some plainDialect
    ∧ (replacingCalls.filter fun e => !e.isLookup)
      = ([.register .mysql plainDialect, .setDefault .mysql] : List Call)
    ∧ (answer? .sqlServer (replacingCalls ++ [.dialect none]) 4).map KeptDialect.dialect
      = (answer? .sqlServer [.register .mysql plainDialect, .setDefault .mysql, .dialect none]
        2).map KeptDialect.dialect
    ∧ ∃ k, answer? .sqlServer (replacingCalls ++ [.dialect none, .dialectFor .oracle,
          .dialectFor .mysql]) 4 = some k
        ∧ answer? .sqlServer (replacingCalls ++ [.dialect none, .dialectFor .oracle,
          .dialectFor .mysql]) 6 = some k
  := by
  obtain ⟨hdialect, hpasts, hinstance⟩ := lookups_transparent .sqlServer
  have hfilter : (replacingCalls.filter fun e => !e.isLookup)
      = ([.register .mysql plainDialect, .setDefault .mysql] : List Call).filter
        fun e => !e.isLookup := rfl
  exact ⟨rfl, hdialect replacingCalls (.dialect none) [] .mysql rfl, rfl,
    hpasts replacingCalls _ (.dialect none) [] [] hfilter,
    hinstance replacingCalls (.dialect none) [.dialectFor .oracle] (.dialectFor .mysql) [] .mysql
      rfl rfl (by simp [Call.registered?])⟩

end SqlRender.Registry
