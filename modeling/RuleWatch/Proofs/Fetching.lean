import RuleWatch.Fetch.Source
import RuleWatch.Proofs.Addresses

/-!
What comes of asking a network for the rules. Main statement: rules come back
just when a success is answered, perhaps from elsewhere, whose body is a rule
set.
-/

namespace RuleWatch

namespace Network

theorem isWeb_of_send {net : Network} {url : Net.Url} {reply : Reply}
    (h : net.send url = .ok reply) : url.IsWeb := by
  unfold send at h
  split at h
  · next web => simpa [Net.Url.IsWeb] using web
  · cases h

theorem isWeb_of_follow {net : Network} {n : Nat} {url last : Net.Url}
    {reply : Reply} (h : net.follow n url = .ok (last, reply)) : url.IsWeb := by
  cases n with
  | zero =>
      unfold follow at h
      cases sent : net.send url with
      | error e =>
          rw [sent] at h
          cases h
      | ok _ => exact isWeb_of_send sent
  | succ n =>
      unfold follow at h
      cases sent : net.send url with
      | error e =>
          rw [sent] at h
          cases h
      | ok _ => exact isWeb_of_send sent

/-- Whether the request for the rules below a base address is answered with a
status and a body: there is an address of the web, and behind all answers that
send the request elsewhere comes this one. -/
def Answers (net : Network) (base : String) (status : Nat)
    (body : List UInt8) : Prop :=
  ∃ url last location, rulesUrl base = .ok url ∧ url.IsWeb ∧
    net.follow redirectLimit url.withoutCredentials =
      .ok (last, ⟨status, location, .ok body⟩)

def always (reply : Reply) : Network := fun _ => .ok reply

theorem follow_of_send {net : Network} {url : Net.Url} {reply : Reply}
    (sent : net.send url = .ok reply)
    (last : reply.redirect? url = none) (n : Nat) :
    net.follow n url = .ok (url, reply) := by
  cases n <;> simp [follow, sent, last, bind, Except.bind, pure, Except.pure]

theorem answers_always {base : String} {url : Net.Url}
    (address : rulesUrl base = .ok url) (web : url.IsWeb) (status : Nat)
    (body : List UInt8) :
    (always ⟨status, none, .ok body⟩).Answers base status body := by
  have allowed :
      ["http", "https"].contains url.withoutCredentials.scheme = true := by
    rw [Net.Url.withoutCredentials]
    rcases web with h | h <;> rw [h] <;> decide
  have sent : (always ⟨status, none, .ok body⟩).send url.withoutCredentials =
      .ok ⟨status, none, .ok body⟩ := by
    rw [send, if_pos allowed]
    rfl
  have last : Reply.redirect? url.withoutCredentials ⟨status, none, .ok body⟩ =
      none := by
    simp [Reply.redirect?]
  exact ⟨url, _, none, address, web, follow_of_send sent last _⟩

theorem rulesUrl_loopback :
    ∃ url, rulesUrl "http://[::1]" = .ok url ∧ url.IsWeb := by
  have read : (rulesUrl "http://[::1]").toOption = some
      { scheme := "http",
        authority := some { host := .ipv6 ⟨[0, 0, 0, 0, 0, 0, 0, 1]⟩ }
        path := .segments ["api", "plugins", "angular_patterns"] } := by
    decide +kernel
  exact ⟨_, toOption_eq_some_iff.1 read, .inl rfl⟩

end Network

namespace Reply

theorem isSuccess_iff (reply : Reply) :
    reply.isSuccess = true ↔ 200 ≤ reply.status ∧ reply.status < 300 := by
  simp [isSuccess]

theorem rules_eq_ok_iff {reply : Reply} {url : Net.Url} {rules : RuleSet} :
    reply.rules url = .ok rules ↔
      (200 ≤ reply.status ∧ reply.status < 300) ∧
        ∃ body, reply.body = .ok body ∧ RuleSet.decode body = .ok rules := by
  rw [← isSuccess_iff, Reply.rules]
  constructor
  · intro h
    split at h
    · next success =>
        split at h
        · next body hb =>
            cases hd : RuleSet.decode body with
            | error refusal =>
                rw [hd] at h
                cases h
            | ok rules' =>
                rw [hd] at h
                cases h
                exact ⟨success, body, hb, hd⟩
        · cases h
    · cases h
  · rintro ⟨success, body, hb, hd⟩
    rw [if_pos success, hb]
    exact congrArg (Except.mapError FetchError.decode) hd

end Reply

namespace Source

/-- What comes back is what the last answer holds. -/
theorem fetch_of_follow {base : String} {net : Network} {url last : Net.Url}
    {reply : Reply} (address : rulesUrl base = .ok url) (web : url.IsWeb)
    (followed : net.follow Network.redirectLimit url.withoutCredentials =
      .ok (last, reply)) :
    (fetch base net).1 = reply.rules last := by
  have hosted := hasHost_of_rulesUrl address web.kind
  have fetched : net.fetchFrom url = reply.rules last := by
    simp [Network.fetchFrom, hosted, followed, bind, Except.bind]
  rw [fetch, address]
  simp only [fetched]
  cases reply.rules last <;> rfl

theorem follow_of_fetch {base : String} {net : Network} {rules : RuleSet}
    (h : (fetch base net).1 = .ok rules) :
    ∃ url last reply, rulesUrl base = .ok url ∧ url.IsWeb ∧
      net.follow Network.redirectLimit url.withoutCredentials =
        .ok (last, reply) ∧
      reply.rules last = .ok rules := by
  unfold fetch at h
  cases address : rulesUrl base with
  | error e =>
      rw [address] at h
      cases h
  | ok url =>
      rw [address] at h
      cases fetched : net.fetchFrom url with
      | error e => simp [fetched] at h
      | ok rules' =>
          simp only [fetched, Except.ok.injEq] at h
          subst h
          unfold Network.fetchFrom at fetched
          cases hosted : url.hasHost with
          | false =>
              rw [hosted] at fetched
              cases fetched
          | true =>
              cases followed : net.follow Network.redirectLimit
                url.withoutCredentials with
              | error e => simp [hosted, followed, bind, Except.bind] at fetched
              | ok found =>
                  obtain ⟨last, reply⟩ := found
                  have web : url.withoutCredentials.IsWeb :=
                    Network.isWeb_of_follow followed
                  exact ⟨url, last, reply, rfl, web, followed, by
                    simpa [hosted, followed, bind, Except.bind] using fetched⟩

/-- Main statement: rules come back just when a success is answered whose body
is a rule set, and they are these rules. -/
theorem fetch_eq_ok_iff {base : String} {net : Network} {rules : RuleSet} :
    (fetch base net).1 = .ok rules ↔
      ∃ status body, net.Answers base status body ∧
        (200 ≤ status ∧ status < 300) ∧
        RuleSet.decode body = .ok rules := by
  constructor
  · intro h
    obtain ⟨url, last, ⟨status, location, found⟩, address, web,
        followed, holds⟩ :=
      follow_of_fetch h
    obtain ⟨success, body, rfl, decoded⟩ := Reply.rules_eq_ok_iff.1 holds
    exact ⟨status, body, ⟨url, last, location, address, web, followed⟩,
      success, decoded⟩
  · rintro ⟨status, body, ⟨url, last, location, address, web, followed⟩,
      success, decoded⟩
    rw [fetch_of_follow address web followed, Reply.rules_eq_ok_iff]
    exact ⟨success, body, rfl, decoded⟩

theorem fetch_of_refused {base : String} {net : Network} {status : Nat}
    {body : List UInt8} (answered : net.Answers base status body)
    (success : 200 ≤ status ∧ status < 300) {refusal : Json.Refusal}
    (refused : RuleSet.decode body = .error refusal) :
    (fetch base net).1 = .error (.decode refusal) := by
  obtain ⟨url, last, location, address, web, followed⟩ := answered
  rw [fetch_of_follow address web followed, Reply.rules,
    if_pos ((Reply.isSuccess_iff _).2 success)]
  exact congrArg (Except.mapError FetchError.decode) refused

end Source

end RuleWatch
