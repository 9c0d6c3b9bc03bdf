import AccountDirectory.Proofs.Http.Bearer
import AccountDirectory.Proofs.Http.Query
import AccountDirectory.Proofs.Http.Run
import AccountDirectory.Proofs.Store.Identifiers
import Mathlib.Data.List.Forall2

/-!
Lists of users and of groups in pages. A page is cut out of the one list of all records in ascending
order of their numbers, so the pages of one size that follow one another are that list.
-/

namespace AccountDirectory

open AccountDirectory.Json (Value)
open AccountDirectory.Store
open AccountDirectory.Time (Instant)

/-- The number that stands under `id`. -/
def Json.Value.id? : Value → Option Int
  | .object members =>
    match members.lookup "id" with
    | some (.number n) => some n
    | _ => none
  | _ => none

namespace Store.Kind

/-- The record under the number is shown so in lists. -/
def ShownAs (t : Tables) (k : Int32) (shown : Value) : Kind → Prop
  | user => ∃ stored, t.users.find? k = some stored ∧ shown = stored.user.summary.toJson
  | group => ∃ g, t.groups.find? k = some g ∧ shown = g.toJson

/-- Every record of the kind is listed once, in ascending order of the numbers, and shows its own. -/
structure Lists (t : Tables) (kind : Kind) (listed : List (Int32 × Value)) : Prop where
  ascending : listed.Pairwise fun a b => a.1 < b.1
  complete : ∀ k shown, (k, shown) ∈ listed ↔ kind.ShownAs t k shown
  numbered : ∀ k shown, (k, shown) ∈ listed → shown.id? = some k.toInt

theorem ShownAs.id? {t : Tables} {k : Int32} {shown : Value} {kind : Kind}
    (isShown : kind.ShownAs t k shown) : shown.id? = some k.toInt := by
  cases kind with
  | user =>
    obtain ⟨stored, found, rfl⟩ := isShown
    rw [← Table.key_of_find? found]
    rfl
  | group =>
    obtain ⟨g, found, rfl⟩ := isShown
    rw [← Table.key_of_find? found]
    rfl

/-- So the numbers that are shown ascend. -/
theorem Lists.ids {t : Tables} {kind : Kind} {listed : List (Int32 × Value)}
    (lists : kind.Lists t listed) :
    ∃ ids : List Int, ids.Pairwise (· < ·) ∧
      (listed.map Prod.snd).map Value.id? = ids.map some := by
  refine ⟨listed.map fun entry => entry.1.toInt, ?_, ?_⟩
  · exact List.pairwise_map.2 (lists.ascending.imp Int32.lt_iff_toInt_lt.1)
  · rw [List.map_map, List.map_map]
    exact List.map_congr_left fun entry member => lists.numbered entry.1 entry.2 member

def entries (t : Tables) : Kind → List (Int32 × Value)
  | user => t.users.rows.map fun stored => (stored.key, stored.user.summary.toJson)
  | group => t.groups.rows.map fun g => (groupKey g, g.toJson)

theorem mem_entries {t : Tables} {kind : Kind} {k : Int32} {shown : Value} :
    (k, shown) ∈ kind.entries t ↔ kind.ShownAs t k shown := by
  cases kind with
  | user =>
    simp only [entries, ShownAs, List.mem_map, Prod.mk.injEq, Table.find?_eq_some_iff, and_assoc]
    exact exists_congr fun stored => and_congr_right fun _ => and_congr_right fun _ => eq_comm
  | group =>
    simp only [entries, ShownAs, List.mem_map, Prod.mk.injEq, Table.find?_eq_some_iff, and_assoc]
    exact exists_congr fun g => and_congr_right fun _ => and_congr_right fun _ => eq_comm

theorem lists_entries (t : Tables) (kind : Kind) : kind.Lists t (kind.entries t) where
  ascending := by
    cases kind with
    | user => exact List.pairwise_map.2 t.users.ascending
    | group => exact List.pairwise_map.2 t.groups.ascending
  complete _ _ := mem_entries
  numbered _ _ member := (mem_entries.1 member).id?

def path : Kind → String
  | user => "/api/users"
  | group => "/api/groups"

def listing : Kind → Http.SessionAction
  | user => .listUsers
  | group => .listGroups

end Store.Kind

namespace Http

/-- The positions of a list that a page takes up. -/
def Page.cut {α : Type} (p : Page) (l : List α) : List α :=
  (l.drop p.offset.toNat).take p.limit.toNat

theorem Page.cut_map {α β : Type} (p : Page) (f : α → β) (l : List α) :
    p.cut (l.map f) = (p.cut l).map f := by
  rw [cut, cut, List.map_take, List.map_drop]

/-- What asks for the page of this number, counted from 0. -/
def PageQuery.nth (size i : Nat) : PageQuery where
  offset := some ((i * size : Nat) : Int)
  limit := some (size : Int)

/-- The page that is meant, with what the query leaves out. -/
def PageQuery.wanted (q : PageQuery) : Page where
  offset := q.offset.getD 0
  limit := q.limit.getD 100

theorem PageQuery.resolve_ok_iff {q : PageQuery} {page : Page} :
    q.resolve = .ok page ↔
      page = q.wanted ∧ 0 ≤ page.offset ∧ 1 ≤ page.limit ∧ page.limit ≤ 1000 := by
  unfold resolve
  dsimp only
  split
  · rename_i negative
    constructor
    · nofun
    · rintro ⟨rfl, fromStart, -⟩
      exact absurd negative (Int.not_lt.2 fromStart)
  · rename_i fromStart
    split
    · rename_i outside
      constructor
      · nofun
      · rintro ⟨rfl, -, some, few⟩
        exact absurd outside (not_or.2 ⟨Int.not_lt.2 some, Int.not_lt.2 few⟩)
    · rename_i inside
      obtain ⟨some, few⟩ := not_or.1 inside
      constructor
      · intro resolved
        cases resolved
        exact ⟨rfl, Int.not_lt.1 fromStart, Int.not_lt.1 some, Int.not_lt.1 few⟩
      · rintro ⟨rfl, -⟩
        rfl

theorem Route.of?_path (kind : Kind) :
    of? .get kind.path = some (.session (some kind.listing)) := by
  cases kind with
  | user => decide
  | group => decide

theorem Page.flatten_cut {α : Type} (l : List α) (size count : Nat) :
    ((List.range count).map fun i => (l.drop (i * size)).take size).flatten = l.take (count * size) := by
  induction count with
  | zero => simp
  | succ count ih =>
    rw [List.range_succ, List.map_append, List.flatten_append, ih, Nat.succ_mul, List.take_add]
    simp

namespace SessionAction

variable {x : Exchange} {claims : ClaimSet} {clock : Instant} {t : Tables} {q : PageQuery} {page : Page}

theorem runOn_page (resolved : q.resolve = .ok page) : runOn clock q.page t = (.ok page, t) := by
  unfold PageQuery.page
  rw [resolved]
  rfl

theorem run_listing (kind : Kind) (asked : x.request.pageQuery = .ok q)
    (resolved : q.resolve = .ok page) :
    runOn clock (run x claims kind.listing) t =
      (.ok (.json 200 (.list (page.cut ((kind.entries t).map Prod.snd)))), t) := by
  have read : runOn clock (liftM x.request.pageQuery : Handler PageQuery) t = (.ok q, t) :=
    Handler.runOn_lift_ok.2 ⟨asked, rfl⟩
  cases kind with
  | user =>
    have listed : t.apply clock (.listUsers page.offset page.limit) =
        .ok ((t.users.page page.offset page.limit).map (·.user.summary), t) := rfl
    have all : (Kind.user.entries t).map Prod.snd =
        (t.users.rows.map (·.user.summary)).map UserSummary.toJson := by
      rw [Kind.entries, List.map_map, List.map_map]
      rfl
    rw [all, page.cut_map, page.cut_map]
    simp only [Kind.listing, run, runListUsers, runOn_bind_ok]
    exact ⟨q, t, read, page, t, runOn_page resolved, _, t, Handler.runOn_call_ok.2 listed, rfl⟩
  | group =>
    have listed : t.apply clock (.listGroups page.offset page.limit) =
        .ok (t.groups.page page.offset page.limit, t) := rfl
    have all : (Kind.group.entries t).map Prod.snd = t.groups.rows.map Group.toJson := List.map_map
    rw [all, page.cut_map]
    simp only [Kind.listing, run, runListGroups, runOn_bind_ok]
    exact ⟨q, t, read, page, t, runOn_page resolved, _, t, Handler.runOn_call_ok.2 listed, rfl⟩

end SessionAction

namespace Service

variable (s : Service)

/-- A `GET` for a part of a list that belongs to a session. -/
structure Browses (t : Tables) (kind : Kind) (v : Visit) (q : PageQuery) : Prop where
  asked : v.exchange.request.method = .get
  path : v.exchange.request.path = kind.path
  query : v.exchange.request.pageQuery = .ok q
  accepted : ∃ claims, s.Accepts v.exchange t claims

variable {s} {t : Tables} {kind : Kind} {v : Visit} {q : PageQuery} {page : Page}

theorem visit_browses (browses : s.Browses t kind v q) (resolved : q.resolve = .ok page) :
    s.visit v t = (some (.json 200 (.list (page.cut ((kind.entries t).map Prod.snd)))), t) := by
  obtain ⟨claims, accepted⟩ := browses.accepted
  have routed : Route.of? v.exchange.request.method v.exchange.request.path =
      some (.session (some kind.listing)) := by
    rw [browses.asked, browses.path, Route.of?_path]
  rw [visit_eq, carryOut_accepted routed accepted,
    SessionAction.run_listing kind browses.query resolved, browses.asked]
  rfl

/-- Pages that are asked for one after another are cut out of the same list. -/
theorem responses_browses {run : List Visit} {queries : List PageQuery}
    (browse : List.Forall₂ (s.Browses t kind) run queries)
    (valid : ∀ q ∈ queries, q.resolve = .ok q.wanted) :
    s.responses run t =
        queries.map (fun q => some (.json 200 (.list (q.wanted.cut ((kind.entries t).map Prod.snd))))) ∧
      s.after t run = t := by
  induction browse with
  | nil => exact ⟨rfl, rfl⟩
  | cons browses _ ih =>
    obtain ⟨resolved, later⟩ := List.forall_mem_cons.1 valid
    rw [responses, after_cons, visit_browses browses resolved, (ih later).1, (ih later).2]
    exact ⟨rfl, rfl⟩

/-- For every state of the directory there is one list of all records of a kind, in ascending order of
    their numbers, which they show as their identifiers, and every page that is asked for in a session
    is cut out of it at its offset, with as many records as its limit allows. The offset is 0 and the
    limit 100 unless the query gives them. Pages of one size, from the start on until there are no more
    records, are the whole list. A query with two numbers of 64 bits in decimal asks for the page that
    has them. -/
theorem pages_make_up_the_list (s : Service) (t : Tables) (kind : Kind) :
    let items := (kind.entries t).map Prod.snd
    kind.Lists t (kind.entries t) ∧
    (∃ ids : List Int, ids.Pairwise (· < ·) ∧ items.map Value.id? = ids.map some) ∧
    (∀ (q : PageQuery) (page : Page), q.resolve = .ok page ↔
      page = { offset := q.offset.getD 0, limit := q.limit.getD 100 } ∧
        0 ≤ page.offset ∧ 1 ≤ page.limit ∧ page.limit ≤ 1000) ∧
    (∀ v q page, s.Browses t kind v q → q.resolve = .ok page →
      s.visit v t = (some (.json 200 (.list (page.cut items))), t) ∧
        ((items.length : Int) ≤ page.offset → page.cut items = [])) ∧
    (∀ v, s.Browses t kind v { offset := none, limit := none } →
      s.visit v t = (some (.json 200 (.list (items.take 100))), t)) ∧
    (∀ size count run, 1 ≤ size → size ≤ 1000 → items.length ≤ count * size →
      List.Forall₂ (s.Browses t kind) run ((List.range count).map (PageQuery.nth size)) →
      s.after t run = t ∧ ∃ parts : List (List Value), parts.flatten = items ∧
        s.responses run t = parts.map fun part => some (.json 200 (.list part))) ∧
    ∀ r : Request, (r.query = "" → r.pageQuery = .ok { offset := none, limit := none }) ∧
      ∀ limit offset : Nat, limit ≤ Query.greatest → offset ≤ Query.greatest →
        r.query = PageQuery.text limit offset →
          r.pageQuery = .ok { offset := some (offset : Int), limit := some (limit : Int) } := by
  intro items
  refine ⟨kind.lists_entries t, (kind.lists_entries t).ids, fun q page => PageQuery.resolve_ok_iff, ?_, ?_,
    ?_, ?_⟩
  · intro v q page browses resolved
    refine ⟨visit_browses browses resolved, fun beyond => ?_⟩
    rw [Page.cut, List.drop_eq_nil_of_le (by omega), List.take_nil]
  · intro v browses
    have resolved : PageQuery.resolve { offset := none, limit := none } =
        .ok { offset := 0, limit := 100 } := rfl
    exact visit_browses browses resolved
  · intro size count run some few enough browse
    have valid : ∀ q ∈ (List.range count).map (PageQuery.nth size), q.resolve = .ok q.wanted := by
      intro q member
      obtain ⟨i, -, rfl⟩ := List.mem_map.1 member
      exact PageQuery.resolve_ok_iff.2
        ⟨rfl, Int.natCast_nonneg _, Int.ofNat_le.2 some, Int.ofNat_le.2 few⟩
    obtain ⟨responses, kept⟩ := responses_browses browse valid
    refine ⟨kept, (List.range count).map fun i => (items.drop (i * size)).take size, ?_, ?_⟩
    · rw [Page.flatten_cut, List.take_of_length_le enough]
    · rw [responses, List.map_map, List.map_map]
      rfl
  · intro r
    constructor
    · intro nothing
      rw [Request.pageQuery, nothing]
      rfl
    · intro limit offset inRange fits written
      rw [Request.pageQuery, written, PageQuery.ofQuery_text inRange fits]
      rfl

/-- Three users in pages of two, and in one page when the query is empty. -/
theorem pages_make_up_the_list_of_three :
    let s : Service := { key := ⟨[7], by decide⟩, tokenSeconds := 3600 }
    let user : User := Tables.newRecord
      { name := "Keeper", email := "k@e.org", username := "keeper", credentialDigest := "",
        externalId := none, orgUnitId := none, groupIds := [], phone := none, isAdmin := true,
        comment := none } .bootstrap .bootstrap { seconds := 0, nanos := 0 }
    let stored (id : UserId) : StoredUser := { user := { user with id }, credentialDigest := "" }
    let t : Tables := ((Tables.putUser {} (stored .bootstrap)).putUser (stored ⟨3⟩)).putUser (stored ⟨2⟩)
    let claims : ClaimSet :=
      { subjectId := .bootstrap, loginName := "keeper", displayName := "Keeper", email := "k@e.org",
        isAdmin := true, issuedAt := { seconds := 0, nanos := 0 },
        expiresAt := { seconds := 3600, nanos := 0 } }
    let asking (query : String) : Visit :=
      { exchange :=
          { request := { method := .get, path := "/api/users", query,
                         headers := [("authorization", "Bearer " ++ Token.mint s.key claims)], body := [] },
            now := { seconds := 60, nanos := 0 }, salt := ⟨List.replicate 16 0, by decide⟩ },
        clock := { seconds := 60, nanos := 1 } }
    let items := [stored .bootstrap, stored ⟨2⟩, stored ⟨3⟩].map fun stored => stored.user.summary.toJson
    items.map Value.id? = [1, 2, 3].map some ∧
    (∃ parts : List (List Value), parts.flatten = items ∧
      s.responses [asking (PageQuery.text 2 0), asking (PageQuery.text 2 2)] t =
        parts.map fun part => some (.json 200 (.list part))) ∧
    s.visit (asking "") t = (some (.json 200 (.list (items.take 100))), t) ∧
    s.visit (asking (PageQuery.text 1000 3)) t = (some (.json 200 (.list [])), t) := by
  intro s user stored t claims asking items
  have routed : Route.of? .get "/api/users" = some (.session (some .listUsers)) := by decide
  have accepted : ∀ query, s.Accepts (asking query).exchange t claims.floored := fun query =>
    accepts_mint ⟨_, routed⟩ rfl rfl ⟨stored .bootstrap, rfl, rfl, rfl⟩
  obtain ⟨-, -, resolved, visited, first, whole, read⟩ := pages_make_up_the_list s t .user
  have browses : ∀ query q, (asking query).exchange.request.pageQuery = .ok q →
      s.Browses t .user (asking query) q := fun query q read => ⟨rfl, rfl, read, _, accepted query⟩
  have reads : ∀ limit offset : Nat, limit ≤ Query.greatest → offset ≤ Query.greatest →
      s.Browses t .user (asking (PageQuery.text limit offset))
        { offset := some (offset : Int), limit := some (limit : Int) } :=
    fun limit offset inRange fits => browses _ _ ((read _).2 limit offset inRange fits rfl)
  have pages := whole 2 2 [asking (PageQuery.text 2 0), asking (PageQuery.text 2 2)] (by decide)
    (by decide) (by decide)
    (.cons (reads 2 0 (by decide) (by decide)) (.cons (reads 2 2 (by decide) (by decide)) .nil))
  have beyond := visited _ _ _ (reads 1000 3 (by decide) (by decide))
    ((resolved _ _).2 ⟨rfl, by decide, by decide, by decide⟩)
  refine ⟨rfl, pages.2, first _ (browses _ _ ((read _).1 rfl)), ?_⟩
  rw [beyond.1, beyond.2 (by decide)]

end Service

end Http

end AccountDirectory
