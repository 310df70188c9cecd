import OmpMySQL.Connect
import OmpMySQL.Proofs.ConnectionRegistry
import OmpMySQL.Proofs.StackedGuard

/-! When a connection counts as encrypted. The server is asked where the client
library does not know, with a statement that is one character short. -/

namespace OmpMySQL
open Library Library.Lexical

/-- A server that reports this cipher for the session. It answers the complete
statement and rejects one whose literal is not terminated. -/
structure StatusServer where
  status : String → StatusReply
  cipher : String
  reports : status "SHOW SESSION STATUS LIKE 'Ssl_cipher'" = .rows [[some "Ssl_cipher", some cipher]]
  rejects : ∀ sql, Unterminated serverRules sql.toList → status sql = .rejected

/-- The outcome of opening a connection to it. -/
def StatusServer.connects (server : StatusServer) (init realConnect : Bool) (clientCipher : Option String) :
    ConnectReply where
  init := init
  realConnect := realConnect
  clientCipher := clientCipher
  status := server.status

namespace ConnectReply

/-- The closing quote is the thirty-seventh character. -/
theorem cipherQuery_unterminated : Unterminated serverRules cipherQuery.toList := by decide

theorem serverCipher_connects (server : StatusServer) (init realConnect : Bool) (clientCipher : Option String) :
    (server.connects init realConnect clientCipher).serverCipher = "" := by
  have rejected : (server.connects init realConnect clientCipher).status cipherQuery = .rejected :=
    server.rejects cipherQuery cipherQuery_unterminated
  rw [serverCipher, rejected]

theorem sslCipher_connects (server : StatusServer) (init realConnect : Bool) (clientCipher : Option String) :
    (server.connects init realConnect clientCipher).sslCipher = clientCipher.getD "" := by
  rw [sslCipher, serverCipher_connects]
  show (if clientCipher.getD "" ≠ "" then clientCipher.getD "" else "") = _
  split
  next => rfl
  next empty => exact (not_not.mp empty).symm

end ConnectReply

namespace Connections

/-- The connection is registered under the handle that is returned. -/
structure Registers (raw : Nat) (done : Connections × Int) : Prop where
  handle : done.2 ≠ 0
  connection : done.1.getConnection done.2 = some raw

/-- A connection is made exactly when opening it succeeded and either side has a
cipher for it; and where only the server can tell, its cipher is what is taken. -/
structure ChecksEncryption (registry : Connections) (raw : Nat) (opts : ConnectionOptions) (server : StatusServer)
    (init realConnect : Bool) (clientCipher : Option String) : Prop where
  registers : Registers raw (doConnect registry raw opts (server.connects init realConnect clientCipher)) ↔
    (server.connects init realConnect clientCipher).opens = true ∧ (clientCipher.getD "" ≠ "" ∨ server.cipher ≠ "")
  returns : (doConnect registry raw opts (server.connects init realConnect clientCipher)).2 ≠ 0 ↔
    (server.connects init realConnect clientCipher).opens = true ∧ (clientCipher.getD "" ≠ "" ∨ server.cipher ≠ "")
  falls : (server.connects init realConnect clientCipher).opens = true → clientCipher.getD "" = "" →
    (server.connects init realConnect clientCipher).sslCipher = server.cipher

variable {registry : Connections}

theorem doConnect_accepted (registry : Connections) (raw : Nat) (opts : ConnectionOptions) {reply : ConnectReply}
    (opened : reply.opens = true) (encrypted : reply.sslCipher ≠ "") :
    doConnect registry raw opts reply = registry.addConnection (some raw) opts.multiStatements := by
  rw [doConnect, if_neg (by simp [opened]), if_neg encrypted]

theorem Consistent.doConnect_encrypted (consistent : Consistent registry) (raw : Nat) (opts : ConnectionOptions)
    {reply : ConnectReply} (opened : reply.opens = true) (encrypted : reply.sslCipher ≠ "") :
    Registers raw (doConnect registry raw opts reply) := by
  have positive := consistent.positive
  rw [doConnect_accepted registry raw opts opened encrypted]
  refine ⟨?_, (consistent.startsAfresh raw opts.multiStatements).connection⟩
  simp only [Connections.addConnection]
  omega

theorem doConnect_refused (registry : Connections) (raw : Nat) (opts : ConnectionOptions) {reply : ConnectReply}
    (refused : ¬ (reply.opens = true ∧ reply.sslCipher ≠ "")) :
    doConnect registry raw opts reply = (registry, 0) := by
  rw [doConnect]
  split
  next => rfl
  next opened =>
    have unencrypted : reply.sslCipher = "" := by
      by_contra encrypted
      exact refused ⟨by simpa using opened, encrypted⟩
    rw [if_pos unencrypted]

theorem Consistent.registers_iff (consistent : Consistent registry) (raw : Nat) (opts : ConnectionOptions)
    (reply : ConnectReply) :
    Registers raw (doConnect registry raw opts reply) ↔ reply.opens = true ∧ reply.sslCipher ≠ "" := by
  constructor
  · intro registers
    by_contra refused
    exact registers.handle (by rw [doConnect_refused registry raw opts refused])
  · exact fun ⟨opened, encrypted⟩ => consistent.doConnect_encrypted raw opts opened encrypted

theorem Consistent.returns_iff (consistent : Consistent registry) (raw : Nat) (opts : ConnectionOptions)
    (reply : ConnectReply) :
    (doConnect registry raw opts reply).2 ≠ 0 ↔ reply.opens = true ∧ reply.sslCipher ≠ "" := by
  constructor
  · intro returned
    by_contra refused
    exact returned (by rw [doConnect_refused registry raw opts refused])
  · exact fun ⟨opened, encrypted⟩ => (consistent.doConnect_encrypted raw opts opened encrypted).handle

/-- The check is exact unless the connection is open and only the server knows its
cipher: the server never gets to say it. -/
theorem checks_encryption_iff {events : List Event} (run : Run (Steps step) {} events registry) (raw : Nat)
    (opts : ConnectionOptions) (server : StatusServer) (init realConnect : Bool) (clientCipher : Option String) :
    ChecksEncryption registry raw opts server init realConnect clientCipher ↔
      (init = false ∨ realConnect = false ∨ clientCipher.getD "" ≠ "" ∨ server.cipher = "") := by
  have consistent := consistent_run run
  have cipher := ConnectReply.sslCipher_connects server init realConnect clientCipher
  have opens : (server.connects init realConnect clientCipher).opens = true ↔ init = true ∧ realConnect = true :=
    Bool.and_eq_true_iff
  constructor
  · intro checks
    by_contra known
    simp only [not_or, Bool.not_eq_false, not_not] at known
    obtain ⟨init, realConnect, unknown, encrypted⟩ := known
    have reported := checks.falls (opens.mpr ⟨init, realConnect⟩) unknown
    rw [cipher, unknown] at reported
    exact encrypted reported.symm
  · intro known
    have silent (opened : (server.connects init realConnect clientCipher).opens = true)
        (unknown : clientCipher.getD "" = "") : server.cipher = "" := by
      obtain ⟨init, realConnect⟩ := opens.mp opened
      simpa [init, realConnect, unknown] using known
    have agrees : (server.connects init realConnect clientCipher).opens = true ∧ clientCipher.getD "" ≠ "" ↔
        (server.connects init realConnect clientCipher).opens = true ∧ (clientCipher.getD "" ≠ "" ∨ server.cipher ≠ "") := by
      constructor
      · exact fun ⟨opened, encrypted⟩ => ⟨opened, Or.inl encrypted⟩
      · rintro ⟨opened, encrypted | reported⟩
        · exact ⟨opened, encrypted⟩
        · exact ⟨opened, fun unknown => reported (silent opened unknown)⟩
    refine ⟨?_, ?_, ?_⟩
    · rw [consistent.registers_iff, cipher]
      exact agrees
    · rw [consistent.returns_iff, cipher]
      exact agrees
    · intro opened unknown
      rw [cipher, unknown, silent opened unknown]

section Schannel

/-- The library does not know the cipher of its own connection; the server does. -/
private def knowing : StatusServer where
  status sql :=
    if sql = "SHOW SESSION STATUS LIKE 'Ssl_cipher'" then .rows [[some "Ssl_cipher", some "TLS_AES_256_GCM_SHA384"]]
    else .rejected
  cipher := "TLS_AES_256_GCM_SHA384"
  reports := rfl
  rejects sql unterminated := by
    apply if_neg
    rintro rfl
    exact absurd unterminated (by decide)

theorem checks_encryption_openssl : ∃ registry, exec step {} [.addConnection (some 4) false] = some registry ∧
    (ChecksEncryption registry 5 {} knowing true true (some "TLS_AES_128_GCM_SHA256") ↔
      (true = false ∨ true = false ∨ (some "TLS_AES_128_GCM_SHA256").getD "" ≠ "" ∨ knowing.cipher = "")) := by
  have done : exec step {} [.addConnection (some 4) false] = some _ := rfl
  exact ⟨_, done, checks_encryption_iff (Run.of_exec done) 5 {} knowing true true (some "TLS_AES_128_GCM_SHA256")⟩

theorem encrypted_refused : ¬ ∀ (events : List Event) (registry : Connections), Run (Steps step) {} events registry →
    ∀ (raw : Nat) (opts : ConnectionOptions) (server : StatusServer) (init realConnect : Bool)
      (clientCipher : Option String), ChecksEncryption registry raw opts server init realConnect clientCipher := by
  intro checks
  have refused := (checks [] {} .refl 5 {} knowing true true none).falls rfl rfl
  exact absurd refused (by decide)

end Schannel

end Connections
end OmpMySQL
