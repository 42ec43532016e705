import SignedPurchase.Certificate.Basic
import SignedPurchase.Failure
import SignedPurchase.Pem

/-
**Trust anchors.**

An anchor is the one certificate that is trusted of itself. It keeps all bytes that it was made
from, also those after the certificate.

* `Presented` is a certificate together with its bytes;
* `TrustAnchor.ofBytes` and `TrustAnchor.ofPem` make an anchor, whose certificate must be readable;
* `TrustAnchor.usual` is the anchor of the store.
-/

namespace SignedPurchase

/-- A certificate together with the bytes it was read from. -/
structure Presented where
  bytes : Bytes
  certificate : Certificate
  /-- The certificate is the one of the bytes. -/
  read : Certificate.ofBytes? bytes = some certificate

/-- The certificate of bytes, with the bytes. -/
def Presented.ofBytes? (bytes : Bytes) : Option Presented :=
  match found : Certificate.ofBytes? bytes with
  | some certificate => some ⟨bytes, certificate, found⟩
  | none => none

/-- A certificate that is trusted of itself. -/
structure TrustAnchor where
  root : Presented

namespace TrustAnchor

/-- The anchor of bytes. -/
def ofBytes (bytes : Bytes) : Outcome TrustAnchor :=
  match Presented.ofBytes? bytes with
  | some root => .ok ⟨root⟩
  | none => .error (.configuration "trust anchor is not a valid certificate")

/-- The anchor in the first block of a text. -/
def ofPem (text : String) : Outcome TrustAnchor :=
  match PemBlock.read? (Utf8.encode text) with
  | none => .error (.configuration "trust anchor is not valid PEM")
  | some block =>
    if block.tag = "CERTIFICATE" then ofBytes block.content
    else
      .error (.configuration ("trust anchor PEM has tag " ++ block.tag ++ ", expected CERTIFICATE"))

/-- The name of the anchor's subject. -/
def subject (anchor : TrustAnchor) : String :=
  anchor.root.certificate.subject.text

/-- The lines of the root certificate of the store, valid until the thirtieth of April 2039. -/
def usualLines : List String :=
  ["-----BEGIN CERTIFICATE-----",
    "MIICQzCCAcmgAwIBAgIILcX8iNLFS5UwCgYIKoZIzj0EAwMwZzEbMBkGA1UEAwwS",
    "QXBwbGUgUm9vdCBDQSAtIEczMSYwJAYDVQQLDB1BcHBsZSBDZXJ0aWZpY2F0aW9u",
    "IEF1dGhvcml0eTETMBEGA1UECgwKQXBwbGUgSW5jLjELMAkGA1UEBhMCVVMwHhcN",
    "MTQwNDMwMTgxOTA2WhcNMzkwNDMwMTgxOTA2WjBnMRswGQYDVQQDDBJBcHBsZSBS",
    "b290IENBIC0gRzMxJjAkBgNVBAsMHUFwcGxlIENlcnRpZmljYXRpb24gQXV0aG9y",
    "aXR5MRMwEQYDVQQKDApBcHBsZSBJbmMuMQswCQYDVQQGEwJVUzB2MBAGByqGSM49",
    "AgEGBSuBBAAiA2IABJjpLz1AcqTtkyJygRMc3RCV8cWjTnHcFBbZDuWmBSp3ZHtf",
    "TjjTuxxEtX/1H7YyYl3J6YRbTzBPEVoA/VhYDKX1DyxNB0cTddqXl5dvMVztK517",
    "IDvYuVTZXpmkOlEKMaNCMEAwHQYDVR0OBBYEFLuw3qFYM4iapIqZ3r6966/ayySr",
    "MA8GA1UdEwEB/wQFMAMBAf8wDgYDVR0PAQH/BAQDAgEGMAoGCCqGSM49BAMDA2gA",
    "MGUCMQCD6cHEFl4aXTQY2e3v9GwOAEZLuN+yRhHFD/3meoyhpmvOwgPUnPWTxnS4",
    "at+qIxUCMG1mihDK1A3UT82NQz60imOlM27jbdoXt2QfyFMm+YhidDkLF1vLUagM",
    "6BgD56KyKA==",
    "-----END CERTIFICATE-----"]

/-- The anchor of the store. -/
def usual : Outcome TrustAnchor := ofPem ("\n".intercalate usualLines)

end TrustAnchor

end SignedPurchase
