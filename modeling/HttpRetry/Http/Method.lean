import HttpRetry.Http.Header
import HttpRetry.Text.Quote

/-!
Request methods. A method is a token (the characters of a header name); the empty method means
`GET`. Retrying is safe for the idempotent methods `GET`, `HEAD`, `PUT`, `DELETE`, `OPTIONS` and
`TRACE`, spelled exactly so.
-/

namespace HttpRetry

/-- The methods that may be repeated without changing the result. -/
def idempotentMethods : List String := ["GET", "HEAD", "PUT", "DELETE", "OPTIONS", "TRACE"]

/-- A method that may be repeated without changing the result. -/
def isIdempotent (method : String) : Bool := idempotentMethods.contains method

/-- The method a request is made with: the empty method is `GET`, and a method that is not a
token is refused with a message that quotes it. -/
def checkMethod (method : String) : Except String String :=
  if method.isEmpty then .ok "GET"
  else if isHeaderName method then .ok method
  else .error ("retryflow/request: invalid method " ++ Text.quote method)

end HttpRetry
