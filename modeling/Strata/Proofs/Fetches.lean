import Strata.Proofs.Origins

/-!
Requests of remote sources. A source is asked for keys and for snapshots, and in between its server
is told what to do about requests. A snapshot always sends one request; a lookup sends one as long
as no document has been fetched, and none after that (`Footing.IsServed.turns`). A source that
reaches no server sends nothing and fails (`Footing.fails_of_unreachable`). Main statement:
`Footing.requests_of_turns`.
-/

namespace Strata

/-- What is asked of a source, or told to a server. -/
inductive RemoteTurn where
  | lookup (key : String)
  | snapshot
  | reply (reply : Reply)
  deriving DecidableEq

namespace RemoteTurn

/-- Whether a key is looked up. -/
def isLookup : RemoteTurn → Bool
  | .lookup _ => true
  | _ => false

/-- Whether a snapshot is taken. -/
def isSnapshot : RemoteTurn → Bool
  | .snapshot => true
  | _ => false

/-- What a server does about requests after a turn. -/
def replyAfter (reply : Reply) : RemoteTurn → Reply
  | .reply reply => reply
  | _ => reply

end RemoteTurn

/-- What a source makes of what a server does about a request. -/
def RemoteSource.reading (r : RemoteSource) : Reply → Except Failure Snapshot
  | .answer status body => r.interpret status body
  | .dropped | .silent => .error (.unavailable r.name .transport)

/-- Sets what a server does about requests. -/
def Host.setReply (h : Host) (i : Nat) (reply : Reply) : Host :=
  { h with network := { h.network with
      servers := h.network.servers.modify i fun server => { server with reply := reply } } }

namespace Footing

/-- The footing after a turn. -/
def turn (i : Nat) (f : Footing) : RemoteTurn → Footing
  | .lookup key => f.take (.lookup key)
  | .snapshot => f.take .snapshot
  | .reply reply => f.take (.host (f.host.setReply i reply))

/-- The footing after several turns. -/
def turns (i : Nat) (f : Footing) (xs : List RemoteTurn) : Footing := xs.foldl (turn i) f

/-- The requests that a server has got, the last one first. -/
def requestsAt (f : Footing) (i : Nat) : List Request :=
  (f.host.network.servers[i]?).elim [] (·.requests)

/-- The document that is fetched in a turn: one that a snapshot would answer, if a request is
sent. -/
def fetched (i : Nat) (f : Footing) (x : RemoteTurn) : Option Snapshot :=
  if ((f.turn i x).requestsAt i).length = (f.requestsAt i).length then none
  else f.snapshot.toOption

/-- The document that is fetched last. -/
def lastFetched (i : Nat) : Footing → List RemoteTurn → Option Snapshot
  | _, [] => none
  | f, x :: xs => (lastFetched i (f.turn i x) xs).or (f.fetched i x)

/-- The turns up to the end of the first fetch that succeeds. -/
def toFirstFetch (i : Nat) : Footing → List RemoteTurn → List RemoteTurn
  | _, [] => []
  | f, x :: xs =>
    x :: if (f.fetched i x).isSome then [] else toFirstFetch i (f.turn i x) xs

/-- A remote source stands on a host with its server, which its requests can reach. -/
structure IsServed (f : Footing) (r : RemoteSource) (i : Nat) (path : String) (server : Server) :
    Prop where
  source : f.source = .remote r
  address : r.address = .server i path
  server : f.host.network.servers[i]? = some server
  isUp : f.host.network.isUp = true
  canCarry : Request.canCarry r.headers = true

variable {f : Footing} {r : RemoteSource} {i : Nat} {path key : String} {server : Server}
  {d : Snapshot} {e : Failure}

/-! ### Turns -/

theorem IsServed.requestsAt (h : f.IsServed r i path server) :
    f.requestsAt i = server.requests := by
  rw [Footing.requestsAt, h.server]
  rfl

/-- A fetch sends a request, and makes of the answer what there is to make of it. -/
theorem IsServed.fetch (h : f.IsServed r i path server) : r.fetch f.host.network =
    (r.reading server.reply, { f.host.network with
      servers := f.host.network.servers.set i
        { server with requests := .get path r.headers :: server.requests } }) := by
  simp only [RemoteSource.fetch, Network.send, h.address, h.server, h.isUp, h.canCarry,
    Bool.not_true, Bool.or_self, Bool.false_eq_true, if_false]
  cases server.reply <;> rfl

/-- A snapshot is a fetch, which the source keeps if it succeeds. -/
theorem IsServed.source_snapshot (h : f.IsServed r i path server) : f.source.snapshot f.host =
    (r.reading server.reply,
      .remote { r with data := (r.reading server.reply).toOption.or r.data },
      { f.host with network := (r.fetch f.host.network).2 }) := by
  simp only [h.source, Source.snapshot, RemoteSource.refetch, h.fetch]
  cases r.reading server.reply <;> rfl

theorem IsServed.snapshot (h : f.IsServed r i path server) :
    f.snapshot = r.reading server.reply := by
  rw [Footing.snapshot, h.source_snapshot]

/-- A lookup without data is a snapshot from which the answer is taken. -/
theorem IsServed.source_lookup (h : f.IsServed r i path server) (hdata : r.data = none) :
    f.source.lookup f.host key = ((f.source.snapshot f.host).1.map (·.get? key),
      (f.source.snapshot f.host).2) := by
  simp only [h.source, Source.lookup, Source.snapshot, RemoteSource.known, hdata]

/-- After a snapshot the source has what it made of the answer, or else what it had before. -/
theorem IsServed.take_snapshot (h : f.IsServed r i path server) : (f.take .snapshot).IsServed
    { r with data := (r.reading server.reply).toOption.or r.data } i path
    { server with requests := .get path r.headers :: server.requests } := by
  have hlt : i < f.host.network.servers.length := (List.getElem?_eq_some_iff.1 h.server).1
  have htake : f.take .snapshot = ⟨_, _⟩ :=
    congrArg (fun x => Footing.mk x.2.1 x.2.2) h.source_snapshot
  rw [htake, h.fetch]
  exact ⟨rfl, h.address, List.getElem?_set_self hlt, h.isUp, h.canCarry⟩

theorem IsServed.take_lookup (h : f.IsServed r i path server) (hdata : r.data = none) :
    f.take (.lookup key) = f.take .snapshot := by
  rw [take, take, h.source_lookup hdata]

theorem IsServed.lookup (h : f.IsServed r i path server) (hdata : r.data = none) :
    f.lookup key = f.snapshot.map (·.get? key) := by
  rw [Footing.lookup, h.source_lookup hdata]
  rfl

theorem IsServed.contents (h : f.IsServed r i path server) : f.contents = r.data := by
  rw [Footing.contents, h.source]
  rfl

theorem IsServed.reply (h : f.IsServed r i path server) (reply : Reply) :
    (f.turn i (.reply reply)).IsServed r i path { server with reply := reply } := by
  refine ⟨h.source, h.address, ?_, h.isUp, h.canCarry⟩
  simp [turn, take, Host.setReply, h.server]

/-- What a turn does in which the source sends a request. -/
theorem IsServed.turn_of_fetch (h : f.IsServed r i path server) {x : RemoteTurn}
    (hx : f.turn i x = f.take .snapshot) : f.fetched i x = f.snapshot.toOption ∧
      (f.turn i x).IsServed { r with data := (f.fetched i x).or r.data } i path
        { server with requests := .get path r.headers :: server.requests } := by
  have hserved := h.take_snapshot
  have hfetched : f.fetched i x = f.snapshot.toOption := by
    rw [fetched, hx, hserved.requestsAt, h.requestsAt, if_neg (by simp)]
  rw [← h.snapshot, ← hfetched, ← hx] at hserved
  exact ⟨hfetched, hserved⟩

/-- What a turn does in which the source sends no request. -/
theorem IsServed.turn_of_quiet (h : f.IsServed r i path server) {x : RemoteTurn} {server' : Server}
    (hx : (f.turn i x).IsServed r i path server') (hrequests : server'.requests = server.requests) :
    f.fetched i x = none ∧
      (f.turn i x).IsServed { r with data := (f.fetched i x).or r.data } i path server' := by
  have hfetched : f.fetched i x = none := by
    rw [fetched, hx.requestsAt, h.requestsAt, hrequests, if_pos rfl]
  rw [hfetched]
  exact ⟨rfl, hx⟩

/-- The number of requests that a source with data, or without, sends in a turn. -/
def sent (data : Option Snapshot) (x : RemoteTurn) : Nat :=
  (if x.isSnapshot then 1 else 0) + if data.isSome then 0 else if x.isLookup then 1 else 0

/-- What a turn does. -/
theorem IsServed.turn (h : f.IsServed r i path server) (x : RemoteTurn) : ∃ server',
    (f.turn i x).IsServed { r with data := (f.fetched i x).or r.data } i path server' ∧
    server'.requests =
      List.replicate (sent r.data x) (.get path r.headers) ++ server.requests ∧
    server'.reply = x.replyAfter server.reply := by
  cases x with
  | snapshot =>
    refine ⟨_, (h.turn_of_fetch rfl).2, ?_, rfl⟩
    cases r.data <;> rfl
  | lookup key =>
    cases hdata : r.data with
    | none =>
      rw [← hdata]
      refine ⟨_, (h.turn_of_fetch (x := .lookup key) (h.take_lookup hdata)).2, ?_, rfl⟩
      rw [hdata]
      rfl
    | some d =>
      rw [← hdata]
      have hsame : f.turn i (.lookup key) = f :=
        take_lookup_of_contents (h.contents.trans hdata)
      refine ⟨server, (h.turn_of_quiet (by rwa [hsame]) rfl).2, ?_, rfl⟩
      rw [hdata]
      rfl
  | reply reply =>
    refine ⟨_, (h.turn_of_quiet (h.reply reply) rfl).2, ?_, rfl⟩
    cases r.data <;> rfl

/-- What is there after several turns: the document that was fetched last, and a request for each
snapshot and for each lookup up to the first fetch that succeeds. -/
theorem IsServed.turns (h : f.IsServed r i path server) (xs : List RemoteTurn) : ∃ server',
    (f.turns i xs).IsServed { r with data := (f.lastFetched i xs).or r.data } i path server' ∧
    server'.requests = List.replicate (xs.countP (·.isSnapshot) +
        if r.data.isSome then 0 else (f.toFirstFetch i xs).countP (·.isLookup))
      (.get path r.headers) ++ server.requests ∧
    server'.reply = xs.foldl RemoteTurn.replyAfter server.reply := by
  induction xs generalizing f r server with
  | nil =>
    refine ⟨server, h, ?_, rfl⟩
    cases r.data <;> rfl
  | cons x xs ih =>
    obtain ⟨server₁, h₁, hrequests₁, hreply₁⟩ := h.turn x
    obtain ⟨server₂, h₂, hrequests₂, hreply₂⟩ := ih h₁
    refine ⟨server₂, ?_, ?_, by rw [hreply₂, hreply₁, List.foldl_cons]⟩
    · rw [lastFetched, Option.or_assoc]
      exact h₂
    · rw [hrequests₂, hrequests₁, ← List.append_assoc, ← List.replicate_add]
      congr 2
      rw [toFirstFetch, List.countP_cons, List.countP_cons, sent]
      -- The data that the source has decide what it sends from here on.
      simp only [Option.isSome_or]
      cases (f.fetched i x).isSome <;> cases r.data.isSome <;>
        simp only [Bool.or_true, Bool.or_false, Bool.false_eq_true, if_true, if_false,
          List.countP_nil] <;> omega

/-- A source without data asks its server for each snapshot and for each lookup up to the first
fetch that succeeds, and for nothing else; what is fetched is what it makes of the reply that the
server was told to give last. A lookup after that asks for nothing, changes nothing, and is answered
from the document that was fetched last. A lookup before that asks for the document, and either is
answered from it, and the source keeps it, or fails as the fetch does, and the source is as it was
before. -/
theorem requests_of_turns (h : f.IsServed r i path server) (hnew : r.data = none)
    (xs : List RemoteTurn) :
    (f.turns i xs).requestsAt i =
      List.replicate (xs.countP (·.isSnapshot) + (f.toFirstFetch i xs).countP (·.isLookup))
        (.get path r.headers) ++ server.requests ∧
    (f.turns i xs).snapshot = r.reading (xs.foldl RemoteTurn.replyAfter server.reply) ∧
    (∀ d, f.lastFetched i xs = some d → ∀ key,
      (f.turns i xs).lookup key = .ok (d.get? key) ∧
        (f.turns i xs).turn i (.lookup key) = f.turns i xs) ∧
    (f.lastFetched i xs = none → ∀ key,
      ((f.turns i xs).turn i (.lookup key)).requestsAt i =
        .get path r.headers :: (f.turns i xs).requestsAt i ∧
      ((∃ d, (f.turns i xs).snapshot = .ok d ∧ (f.turns i xs).lookup key = .ok (d.get? key) ∧
          ((f.turns i xs).turn i (.lookup key)).contents = some d) ∨
        ∃ e, (f.turns i xs).snapshot = .error e ∧ (f.turns i xs).lookup key = .error e ∧
          ((f.turns i xs).turn i (.lookup key)).source = (f.turns i xs).source)) := by
  obtain ⟨server', hserved, hrequests, hreply⟩ := h.turns xs
  rw [hnew, Option.or_none] at hserved
  refine ⟨?_, ?_, fun d hd key => ?_, fun hnone key => ?_⟩
  · rw [hserved.requestsAt, hrequests, hnew]
    rfl
  · rw [hserved.snapshot, hreply]
    rfl
  · have hcontents : (f.turns i xs).contents = some d := hserved.contents.trans hd
    exact ⟨lookup_of_contents hcontents, take_lookup_of_contents hcontents⟩
  · have htake : (f.turns i xs).take (.lookup key) = _ := hserved.take_lookup hnone
    have hlookup : (f.turns i xs).lookup key = _ := hserved.lookup hnone
    obtain ⟨-, hafter⟩ := hserved.turn_of_fetch (x := .lookup key) htake
    refine ⟨by rw [hafter.requestsAt, hserved.requestsAt], ?_⟩
    cases hsnapshot : (f.turns i xs).snapshot with
    | ok d =>
      rw [hsnapshot] at hlookup
      refine .inl ⟨d, rfl, hlookup, ?_⟩
      exact (congrArg contents htake).trans (contents_take_snapshot_ok hsnapshot)
    | error e =>
      rw [hsnapshot] at hlookup
      exact .inr ⟨e, rfl, hlookup, (take_lookup_error hlookup).1⟩

/-- A source that reads a part of what its server holds. -/
def partReader : RemoteSource :=
  { name := "remote", address := .server 0 "/p", pointer := some "/app", headers := .empty }

/-- A source whose server drops the connection at first. -/
def unreliable : Footing :=
  ⟨.remote partReader, { network := { servers := [{ path := "/p", reply := .dropped }] } }⟩

/-- Fetches that fail in all ways. -/
def failingTurns : List RemoteTurn :=
  [.lookup "a", .reply (.answer 503 (.text "")), .snapshot, .reply (.answer 200 (.text "[")),
    .lookup "a", .reply (.answer 200 (.text "[1]")), .lookup "b", .snapshot,
    .reply (.answer 200 (.text "\x7b\"app\":1\x7d")), .lookup "a"]

/-- A fetch that succeeds, and one that fails after it. -/
def recoveringTurns : List RemoteTurn :=
  [.reply (.answer 200 (.text "\x7b\"app\":\x7b\"a\":1\x7d\x7d")), .lookup "b", .lookup "a",
    .reply .dropped, .snapshot, .lookup "b"]

/-- Six requests fail, and one brings the document from which further lookups are answered, although
the server fails again. -/
theorem requests_of_recoveringTurns :
    (∃ e, (unreliable.turns 0 failingTurns).lookup "b" = .error e) ∧
    (unreliable.turns 0 (failingTurns ++ recoveringTurns)).requestsAt 0 =
      List.replicate 8 (.get "/p" .empty) ∧
    (unreliable.turns 0 (failingTurns ++ recoveringTurns)).lookup "a" = .ok (some "1") := by
  have hserved : unreliable.IsServed partReader 0 "/p" ⟨"/p", .dropped, []⟩ :=
    ⟨rfl, rfl, rfl, rfl, rfl⟩
  obtain ⟨-, hsnapshot, -, hfailing⟩ := requests_of_turns hserved rfl failingTurns
  obtain ⟨hrequests, -, hfetched, -⟩ :=
    requests_of_turns hserved rfl (failingTurns ++ recoveringTurns)
  refine ⟨?_, ?_, ?_⟩
  · have hnone : (unreliable.lastFetched 0 failingTurns).isNone = true := by decide +kernel
    have hfails : (partReader.reading
        (failingTurns.foldl RemoteTurn.replyAfter .dropped)).toOption.isNone = true := by
      decide +kernel
    obtain ⟨-, ⟨d, hd, -⟩ | ⟨e, -, he, -⟩⟩ := hfailing (Option.isNone_iff_eq_none.1 hnone) "b"
    · rw [← hsnapshot, hd] at hfails
      cases hfails
    · exact ⟨e, he⟩
  · have hcount : (failingTurns ++ recoveringTurns).countP (·.isSnapshot) +
        (unreliable.toFirstFetch 0 (failingTurns ++ recoveringTurns)).countP (·.isLookup) = 8 := by
      decide +kernel
    rw [hrequests, hcount, List.append_nil]
    rfl
  · have hlast : (unreliable.lastFetched 0 (failingTurns ++ recoveringTurns)).map (·.get? "a") =
        some (some "1") := by decide +kernel
    obtain ⟨d, hd, hvalue⟩ := Option.map_eq_some_iff.1 hlast
    rw [(hfetched d hd "a").1, hvalue]

/-! ### Without a server -/

/-- A source that cannot reach a server, as there is none at its address, or the network is down, or
its headers cannot be sent, sends nothing, always fails, and is left as it is. -/
theorem fails_of_unreachable (hsource : f.source = .remote r)
    (hsend : f.host.network.send r.address r.headers = (none, f.host.network)) :
    f.snapshot = .error (.unavailable r.name .transport) ∧ f.take .snapshot = f ∧
    (r.data = none → f.lookup key = .error (.unavailable r.name .transport) ∧
      f.take (.lookup key) = f) := by
  obtain ⟨source, host⟩ := f
  subst hsource
  have hrefetch : r.refetch host.network =
      (.error (.unavailable r.name .transport), r, host.network) := by
    simp only [RemoteSource.refetch, RemoteSource.fetch, hsend]
  refine ⟨?_, ?_, fun hnew => ⟨?_, ?_⟩⟩
  · simp only [Footing.snapshot, Source.snapshot, hrefetch]
  · simp only [take, Source.snapshot, hrefetch]
  · simp only [Footing.lookup, Source.lookup, RemoteSource.known, hnew, hrefetch, Except.map]
  · simp only [take, Source.lookup, RemoteSource.known, hnew, hrefetch]

end Footing

end Strata
