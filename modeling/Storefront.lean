import Storefront.Command
import Storefront.Main
import Storefront.Run
import Storefront.Visitor
import Storefront.Proofs.Access
import Storefront.Proofs.Greeting
import Storefront.Proofs.Sound
import Storefront.Proofs.Unreachable
import Storefront.Proofs.Failures
import Storefront.Proofs.Shown
import Storefront.Proofs.Storable
import Storefront.Proofs.Prices
import Storefront.Proofs.Outage
import Storefront.Proofs.Live
import Storefront.Proofs.Strangers
import Storefront.Proofs.Reissue
import Storefront.Proofs.Probe
import Storefront.Proofs.Interleaving
import Storefront.Proofs.UnderTest
import Storefront.Proofs.News
import Storefront.Proofs.Told
import Storefront.Proofs.Truthful
import Storefront.Proofs.Decoded
import Storefront.Proofs.ByNumber
import Storefront.Proofs.Nearest
import Storefront.Proofs.RoundTrip
import Storefront.Proofs.Amounts
import Storefront.Proofs.Rejudged
import Storefront.Proofs.Bodies
import Storefront.Proofs.Markup
import Storefront.Proofs.Visitors
import Storefront.Proofs.Returning
import Storefront.Proofs.Remaking
import Storefront.Proofs.Startup
import Storefront.Proofs.Leases
import Storefront.Proofs.Levels
import Storefront.Proofs.Passwords
import Storefront.Proofs.Routing
