import Signal2sip.Lib.CxxString
import Signal2sip.Lib.Recorded
import Signal2sip.Storage.Records

/-!
# `RegistrationClient.cpp`

One request of the plain REST client. `curl` is a parameter: it is told the options of the request, and
gives a response or the text of its error. The certificate and the timeout are the same in every request
and are left out, as is the cleanup.
-/

namespace Signal2sip

/-- What a request sets. There is no body in a `GET`; the strings that `curl` copies end at a null
character. -/
structure CurlRequest where
  url : String
  method : String
  postFields : Option Bytes
  header : Option String
  userpwd : Option String
deriving DecidableEq, Repr

structure HttpResponse where
  status : Int
  body : Bytes
deriving DecidableEq, Repr

structure Curl where
  easyInit : Bool
  /-- The error is `curl_easy_strerror`'s text. -/
  easyPerform : CurlRequest → Except String HttpResponse

def curlRequest (serverHost method path : String) (body : Bytes) (contentType : String)
    (basicAuthUser basicAuthPass : String) : CurlRequest where
  url := CxxString.cStr ("https://" ++ serverHost ++ path)
  method := CxxString.cStr method
  postFields := if method = "GET" then none else some body
  header := if body ≠ [] then some (CxxString.cStr ("Content-Type: " ++ contentType)) else none
  userpwd :=
    if basicAuthUser ≠ "" then some (CxxString.cStr (basicAuthUser ++ ":" ++ basicAuthPass)) else none

variable {κ : Type}

open Recorded (call failIf fail)

/-- `doRequest`; `made` is how the caller records the request. -/
def doRequest (curl : Curl) (made : CurlRequest → κ) (serverHost method path : String) (body : Bytes)
    (contentType basicAuthUser basicAuthPass : String) : Recorded RuntimeError κ HttpResponse := do
  failIf (curl.easyInit = false) ⟨"curl_easy_init failed"⟩
  let request := curlRequest serverHost method path body contentType basicAuthUser basicAuthPass
  match ← call (made request) (.ok (curl.easyPerform request)) with
  | .ok response => return response
  | .error error => fail ⟨"HTTP request to " ++ path ++ " failed: " ++ error⟩

namespace RegistrationClient

/-- `RegistrationClient::request`. -/
def request (curl : Curl) (made : CurlRequest → κ) (serverHost method path : String) (jsonBody : Bytes)
    (basicAuthUser basicAuthPass : String) : Recorded RuntimeError κ HttpResponse :=
  doRequest curl made serverHost method path jsonBody "application/json" basicAuthUser basicAuthPass

/-- `RegistrationClient::requestRaw`. -/
def requestRaw (curl : Curl) (made : CurlRequest → κ) (serverHost method path : String) (body : Bytes)
    (contentType basicAuthUser basicAuthPass : String) : Recorded RuntimeError κ HttpResponse :=
  doRequest curl made serverHost method path body contentType basicAuthUser basicAuthPass

end RegistrationClient

end Signal2sip
