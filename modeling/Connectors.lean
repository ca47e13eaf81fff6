import Connectors.Python.Runtime
import Connectors.Python.Text
import Connectors.Python.Json
import Connectors.Python.Quote
import Connectors.Es.Index
import Connectors.Es.Paging
import Connectors.Es.Concurrent
import Connectors.Gcs.ApiCall
import Connectors.Gcs.Source
import Connectors.Gcs.Document
import Connectors.Gcs.Docs
import Connectors.Gcs.Content
import Connectors.Kibana.Client
import Connectors.Kibana.Prepare
