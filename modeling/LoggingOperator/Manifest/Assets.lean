/-
  LoggingOperator.Manifest.Assets — FIXED TEXTS INSIDE GENERATED OBJECTS.

  The scripts that tell whether a container is ready, the configuration of the
  shipper, and the bundle of certificates that encrypts traffic.
-/
import LoggingOperator.Text.Base64

namespace LoggingOperator.Manifest.Assets

/-- A text of these lines, each ended by a line break. -/
def ofLines (lines : List String) : String :=
  String.join (lines.map fun line => line ++ "\n")

/-! ## §1. Readiness scripts -/

/-- Is a search node ready?  The first time it asks for the health of the whole
    cluster, and later only whether the node answers. -/
def searchReadiness : String := ofLines [
  "#!/usr/bin/env bash -e",
  "START_FILE=/tmp/.es_start_file",
  "http () \x7b",
  "  local path=\"$\x7b1\x7d\"",
  "  local args=\"$\x7b2\x7d\"",
  "  set -- -XGET -s",
  "  if [ \"$args\" != \"\" ]; then",
  "    set -- \"$@\" $args",
  "  fi",
  "  if [ -n \"$\x7bELASTIC_USERNAME\x7d\" ] && [ -n \"$\x7bELASTIC_PASSWORD\x7d\" ]; then",
  "    set -- \"$@\" -u \"$\x7bELASTIC_USERNAME\x7d:$\x7bELASTIC_PASSWORD\x7d\"",
  "  fi",
  "  curl --output /dev/null -k \"$@\" \"$\x7bSCHEME\x7d://127.0.0.1:9200$\x7bpath\x7d\"",
  "\x7d",
  "if [ -f \"$\x7bSTART_FILE\x7d\" ]; then",
  "  echo 'Elasticsearch is already running, lets check the node is healthy'",
  "  HTTP_CODE=$(http \"/\" \"-w %\x7bhttp_code\x7d\")",
  "  RC=$?",
  "  if [[ $\x7bRC\x7d -ne 0 ]]; then",
  "    echo \"curl --output /dev/null -k -XGET -s -w '%\x7bhttp_code\x7d' "
    ++ "\\$\x7bBASIC_AUTH\x7d $\x7bSCHEME\x7d://127.0.0.1:9200/ failed with RC $\x7bRC\x7d\"",
  "    exit $\x7bRC\x7d",
  "  fi",
  "  if [[ $\x7bHTTP_CODE\x7d == \"200\" ]]; then",
  "    exit 0",
  "  else",
  "    echo \"curl --output /dev/null -k -XGET -s -w '%\x7bhttp_code\x7d' "
    ++ "\\$\x7bBASIC_AUTH\x7d $\x7bSCHEME\x7d://127.0.0.1:9200/ failed with HTTP code "
    ++ "$\x7bHTTP_CODE\x7d\"",
  "    exit 1",
  "  fi",
  "else",
  "  echo 'Waiting for elasticsearch cluster to become ready (request params: "
    ++ "\"wait_for_status=green&timeout=1s\" )'",
  "  if http \"/_cluster/health?wait_for_status=green&timeout=1s\" \"--fail\" ; then",
  "    touch $\x7bSTART_FILE\x7d",
  "    exit 0",
  "  else",
  "    echo 'Cluster is not yet ready (request params: \"wait_for_status=green&timeout=1s\" )'",
  "    exit 1",
  "  fi",
  "fi"]

/-- Is a dashboard ready? -/
def dashboardReadiness : String := ofLines [
  "#!/usr/bin/env bash -e",
  "http () \x7b",
  "  local path=\"$\x7b1\x7d\"",
  "  set -- -XGET -s --fail",
  "  if [ -n \"$\x7bELASTIC_USERNAME\x7d\" ] && [ -n \"$\x7bELASTIC_PASSWORD\x7d\" ]; then",
  "    set -- \"$@\" -u \"$\x7bELASTIC_USERNAME\x7d:$\x7bELASTIC_PASSWORD\x7d\"",
  "  fi",
  "  STATUS=$(curl --output /dev/null --write-out \"%\x7bhttp_code\x7d\" -k \"$@\" "
    ++ "\"http://localhost:5601$\x7bpath\x7d\")",
  "  if [[ \"$\x7bSTATUS\x7d\" -eq 200 ]]; then",
  "    exit 0",
  "  fi",
  "  echo \"Error: Got HTTP code $\x7bSTATUS\x7d but expected a 200\"",
  "  exit 1",
  "\x7d",
  "http \"/app/kibana\""]

/-! ## §2. The shipper -/

/-- The configuration of the shipper, which reads where to send logs from its
    environment. -/
def shipperConfig : String := ofLines [
  "@include \"#\x7bENV['FLUENTD_SYSTEMD_CONF'] || 'systemd'\x7d.conf\"",
  "@include \"#\x7bENV['FLUENTD_PROMETHEUS_CONF'] || 'prometheus'\x7d.conf\"",
  "@include kubernetes.conf",
  "@include conf.d/*.conf",
  "@include conf.d/additional-config/*.conf",
  "",
  "<match **>",
  "   @type elasticsearch_dynamic",
  "   @id out_es",
  "   @log_level info",
  "   include_tag_key true",
  "   host \"#\x7bENV['FLUENT_ELASTICSEARCH_HOST']\x7d\"",
  "   port \"#\x7bENV['FLUENT_ELASTICSEARCH_PORT']\x7d\"",
  "   path \"#\x7bENV['FLUENT_ELASTICSEARCH_PATH']\x7d\"",
  "   scheme \"#\x7bENV['FLUENT_ELASTICSEARCH_SCHEME'] || 'http'\x7d\"",
  "   ssl_verify \"#\x7bENV['FLUENT_ELASTICSEARCH_SSL_VERIFY'] || 'true'\x7d\"",
  "   ssl_version \"#\x7bENV['FLUENT_ELASTICSEARCH_SSL_VERSION'] || 'TLSv1_2'\x7d\"",
  "   user \"#\x7bENV['FLUENT_ELASTICSEARCH_USER'] || use_default\x7d\"",
  "   password \"#\x7bENV['FLUENT_ELASTICSEARCH_PASSWORD'] || use_default\x7d\"",
  "   reload_connections \"#\x7bENV['FLUENT_ELASTICSEARCH_RELOAD_CONNECTIONS'] || 'false'\x7d\"",
  "   reconnect_on_error \"#\x7bENV['FLUENT_ELASTICSEARCH_RECONNECT_ON_ERROR'] || 'true'\x7d\"",
  "   reload_on_failure \"#\x7bENV['FLUENT_ELASTICSEARCH_RELOAD_ON_FAILURE'] || 'true'\x7d\"",
  "   log_es_400_reason \"#\x7bENV['FLUENT_ELASTICSEARCH_LOG_ES_400_REASON'] || 'false'\x7d\"",
  "   logstash_prefix \"#\x7bENV['FLUENT_ELASTICSEARCH_LOGSTASH_PREFIX'] || 'logstash'\x7d\"",
  "   logstash_dateformat \"#\x7bENV['FLUENT_ELASTICSEARCH_LOGSTASH_DATEFORMAT'] || "
    ++ "'%Y.%m.%d'\x7d\"",
  "   logstash_format \"#\x7bENV['FLUENT_ELASTICSEARCH_LOGSTASH_FORMAT'] || 'true'\x7d\"",
  "   index_name \"#\x7bENV['FLUENT_ELASTICSEARCH_LOGSTASH_INDEX_NAME'] || 'logstash'\x7d\"",
  "   target_index_key \"#\x7bENV['FLUENT_ELASTICSEARCH_TARGET_INDEX_KEY'] || use_nil\x7d\"",
  "   type_name \"#\x7bENV['FLUENT_ELASTICSEARCH_LOGSTASH_TYPE_NAME'] || 'fluentd'\x7d\"",
  "   include_timestamp \"#\x7bENV['FLUENT_ELASTICSEARCH_INCLUDE_TIMESTAMP'] || 'false'\x7d\"",
  "   template_name \"#\x7bENV['FLUENT_ELASTICSEARCH_TEMPLATE_NAME'] || use_nil\x7d\"",
  "   template_file \"#\x7bENV['FLUENT_ELASTICSEARCH_TEMPLATE_FILE'] || use_nil\x7d\"",
  "   template_overwrite \"#\x7bENV['FLUENT_ELASTICSEARCH_TEMPLATE_OVERWRITE'] || "
    ++ "use_default\x7d\"",
  "   sniffer_class_name \"#\x7bENV['FLUENT_SNIFFER_CLASS_NAME'] || "
    ++ "'Fluent::Plugin::ElasticsearchSimpleSniffer'\x7d\"",
  "   request_timeout \"#\x7bENV['FLUENT_ELASTICSEARCH_REQUEST_TIMEOUT'] || '5s'\x7d\"",
  "   application_name \"#\x7bENV['FLUENT_ELASTICSEARCH_APPLICATION_NAME'] || use_default\x7d\"",
  "   suppress_type_name \"#\x7bENV['FLUENT_ELASTICSEARCH_SUPPRESS_TYPE_NAME'] || 'true'\x7d\"",
  "   enable_ilm \"#\x7bENV['FLUENT_ELASTICSEARCH_ENABLE_ILM'] || 'false'\x7d\"",
  "   ilm_policy_id \"#\x7bENV['FLUENT_ELASTICSEARCH_ILM_POLICY_ID'] || use_default\x7d\"",
  "   ilm_policy \"#\x7bENV['FLUENT_ELASTICSEARCH_ILM_POLICY'] || use_default\x7d\"",
  "   ilm_policy_overwrite \"#\x7bENV['FLUENT_ELASTICSEARCH_ILM_POLICY_OVERWRITE'] || "
    ++ "'false'\x7d\"",
  "   <buffer>",
  "     flush_thread_count \"#\x7bENV['FLUENT_ELASTICSEARCH_BUFFER_FLUSH_THREAD_COUNT'] "
    ++ "|| '8'\x7d\"",
  "     flush_interval \"#\x7bENV['FLUENT_ELASTICSEARCH_BUFFER_FLUSH_INTERVAL'] || '5s'\x7d\"",
  "     chunk_limit_size \"#\x7bENV['FLUENT_ELASTICSEARCH_BUFFER_CHUNK_LIMIT_SIZE'] || '2M'\x7d\"",
  "     queue_limit_length \"#\x7bENV['FLUENT_ELASTICSEARCH_BUFFER_QUEUE_LIMIT_LENGTH'] "
    ++ "|| '32'\x7d\"",
  "     retry_max_interval \"#\x7bENV['FLUENT_ELASTICSEARCH_BUFFER_RETRY_MAX_INTERVAL'] "
    ++ "|| '30'\x7d\"",
  "     retry_forever true",
  "   </buffer>",
  "</match>"]

/-! ## §3. Certificates -/

/-- The file name of the bundle, in the secret and where it is mounted. -/
def certificateFile : String := "elastic-certificates.p12"

/-- The bundle of certificates in base64. -/
def certificateText : String := String.join [
  "MIINtQIBAzCCDW4GCSqGSIb3DQEHAaCCDV8Egg1bMIINVzCCBXsGCSqGSIb3DQEHAaCCBWwEggVoMIIFZDCCBWAG",
  "CyqGSIb3DQEMCgECoIIE+zCCBPcwKQYKKoZIhvcNAQwBAzAbBBRXl4wMA1YFGcYNy5bMrNZRoV8f3gIDAMNQBIIE",
  "yIggh0fZzyPHOVkjx030uVVONEhscZlaaDAh41wCSfLlTCo8b/1paSCJekN8zlFT/a722PwPEX3jt89tauAP/Yjg",
  "vKeSJrAMqSLJY9O9sLhPmIEtfecUVX4GMjQ29Vfrla6oeaYFjP9XYKvqr3i3FkQvJvUS+hTgUsxXxQVOJuVnb9Up",
  "x5zg2G6xezyKWUQi/9b/RVBOg0uqh4n9QwlTOxflJHagP/x6MuhRXmkQd1BWyKaCxB3P6PbhvctrWvv22ccRkH/u",
  "eb0viNlitB91CAzujelmbKlXGb+lfl6zxhQUki2kbstkNFalKvR7Wl7E+tT4wWeRpvUF49NktBt601DG6ccBUzBx",
  "dgbjzNqPw5DjMxVCdbohD+xUlNUyWg+E/OZY4rHg2mPKOsfO/CcS8Vm9YmRtoCMJuFhmxjCA1otBhrrg2X5EBeIQ",
  "WiAo3ygZGvxdtLWs6ovmBTz+i6UOaww0ub4/gZwDcoPD2h6cO7533fHB7aeBfu2O65QIeb/6CE1DKfLcKOmKJAB3",
  "RtFhFLyeuvOH7UHRHl7vHsU1XijYIL1HAcJMKy/ccUqGnMbnOAgClV/Wl1ZGzusLO703RaKS0TB/bwFNij0bSt6Y",
  "HkxhtmvPWYSpSU44ngMugLgGK7tP+bEwiX3qAFXu9yBWG3bbFgOhQ+x3lexdk/YaXxEjMihQRKxlY4Vo5jzfvx2n",
  "Tj9pbBBZZ/FjlhQvffBUbOpeP58bGjbuLJ6ph3U7UK18KMaI0e1kug8VOrdyTAi45yX0f4THoCUJ6eqUWe6zR2Mv",
  "Lck1c5cfmNimVTczjCmUAIZ6JQMTgE3cWCkLePBMdEoI/vDfkOuIk2xXHQ0c8mLKs7e49+nf753HuwuFLvev0UZs",
  "5yvD0Qwy128MBDN2gTQdMOvIuWLwsy6kGYUgA0nzXP33TgPHwFSwitM1OZ4jtyM8NEAHxttaMrU2Tg3wsPM+biVi",
  "jnR0D+l8bBNYysYvHsT0FWG1LwPQy4xqIXKxYcafUMM9qKSRTySBapAEiUrLM6Iikf5hOZqlAEV9AttCmwt2AyIz",
  "HxwYz/VY7xDgJ2JphpJE8jAV6kVfKUFtcJqJIKHoPW/qZcJU+JR0rTHQ6nZc2RzaOcZnvye3gnaMTuHpBOS844a6",
  "7I6hHfXM3WhjoVglkl6h4c9GTGtZFQBivaCQLrcD94NUaC96XhLHQ4e91z/t+YQ2G/VRfQ9dJ1OqS1PaZNDtfXSR",
  "JJzpBh9BAQCF76HKk0XHTtMPWW/RDA7vQ/atJgQwNtF1yvifcdKFY9LWdAjYCuD6mxd74afi18+HPs4Fske2FEUQ",
  "+meJ+baq2IuCdtMjlC8tz9/yicebxyKz3sZs6sbrLhFPU9F9dskPJBHdUEYtS5QaadV/cXZUt0uoH1T/cA4b/aGk",
  "K8Wffs8aBECjFLP4Hn9vLdUlSOll+aJQ1+t4Ap9D77ulQmiVN42uK7Fl8XxoU35BHwovv94mIf1Cj3w+KKatcAMc",
  "kWDXPntpCDaNTXIYOCKgHdTt0DJOpQSPJV9FlAxqySHj2+OT1DTRYTovHKXiY7eknZ5qfQvECnY2FLE+EarJxPcO",
  "LktnXFw4GsD/AQGGtHqko5OlCMnOC+Ho85JcTWfrXEw1J2bvYzFSMC0GCSqGSIb3DQEJFDEgHh4AcwBlAGMAdQBy",
  "AGkAdAB5AC0AbQBhAHMAdABlAHIwIQYJKoZIhvcNAQkVMRQEElRpbWUgMTU3NzA5MzYwOTE3ODCCB9QGCSqGSIb3",
  "DQEHBqCCB8UwggfBAgEAMIIHugYJKoZIhvcNAQcBMCkGCiqGSIb3DQEMAQYwGwQUnZC0P5SxquPYHk54cBsx+TJi",
  "jW4CAwDDUICCB4BswFhErinMAOvd3veYKFRAPzFc6nzm1Feq4iWMAqGu5adh/4fwLEiXrT/gyA25cO2ScEV/DtEO",
  "Er7z39jbAdsFbpDEhL3Zfr0PPcYA+p3tb4ZUyH60vTsnsYKUbbXvOag12nA1shNDKjHhGRj5bxwrcaPDpuQzZZMs",
  "fkAiq9udL6pe407g9L9dSh1w+3tAzIEeNoNuTlZo2SogMsXjHhn+K0c7i38zlZce5JZfnIhM1nm3PWlTNMHusdWQ",
  "GpgydmXOfpMbCkbRovUNIap+a6lR9fat2uMs2U/wRinZ1ecTMvBkovQbDzGO3c9UBMZsfBNsNWwPIrVu47wj6svq",
  "ZNo+2Cua754xEOl6swY17bnu9cqPDYbK5ETDkScbhAhsRwJcdyuMTtaLsRcHbJEHFIMHoymEVrJZooqLD1ygj2hO",
  "0k0PixM5M2rDWgDqq5KfmJnf5YOloYeBxllLDp3BTFA/zAxZWDMMDUZSJVMVfcNnAZE6OnbpPqkw5SKz1ldz1hbo",
  "dfoqb9gV9olYuu8V1h0b/lStQ8FB4WWV8XCMnh1xLAz0LR0LkfWCNaW3DTxZwZQruhgVqye8ZPcpW75nwIERCvD2",
  "w0XE0Muk3UhJ+ro6y2IDocwvPlsN6lKS9ZA77i/3y8Y7Gsmo/BPaKr8rfn/ecH36VSok58igd3vDiVh6N5eicMeh",
  "S+AVkWgW8bKpF/VmKy7O//3zdZ0XhB1x7afPjGtH6DN+vPkZYGqTcLLo8tEBmrf1QciAgDHGDBJCB6P/F067himv",
  "cG57pJD7riacGJDXZe33MzSfIBhSRBWHwcqa9au6Eg9v/0cp/szAkr/RXS3YxooTdHz1jwEdkm7NpVrx6RfHDfkc",
  "4xglZFvsKrSllETsbw9qvzrJxLgQP2dbR1Ov3xYvts7NfmBrAa1owFfQ+diDwymdwGuw/Tx7J+DHAqVHpOjOHVq/",
  "hDGKF1RPf11OceNX4RRfObkkRdAM9GZa6ViPn5R4JY6OBE9IWEjkkZx9O/okXfBhbRqG6P+m6wFeSKnTRahqts0i",
  "Oel9sSlv4Nn63h2LPj6oOpbnxqAyXn4qdRPv3n5w3t8T5iFSbTOPSmIIKgiAUoSmd6Q2OBZr4rki4Gw5gmq6aFZA",
  "pQb5BZiUgu9wieJZX6Yf9dMmzOtSX9hOPeWieh5P12A2tLcyvWoBr32iET3s/STDrKAkmeaepnSk1LMV1tvZzAFM",
  "Et9wn9FjutJVls6IWK6v8SuQwwpYsDp579qypI115cm2fNASBaJRm/nMInEdJD1TgJiJ3p42e3CuEKFl22qWjd0J",
  "dQwTDElcYElPOAyns2CoYOOx/DHlDeOJ2xsXJvoRqID1hKUqUPTuh8G2j1wzKVgnGascYex7IZFmf1cwQrq7PWhf",
  "1QGmK+Ih5ObwQnTSotlGEQccL4BUMSFFm/GPJQN9u3ohXToR/NAp9+MTJizRy3EMlsyNSFHPC8nhsOIzypLCUhyo",
  "V0T2+M2FG9nHWmk6tQFtQiYWORaqxunEO/Q+cy1/Yxw/fwnZLI97/3TbafqI2tzYYI6ZftV0JqeFnh6//ID7Lb2w",
  "NhsM6AEC/61d9TYdZVNjrsp7QjUIZKlVOIAXw/KUfgqp7d4YuZClm+CGw1QTpWDpgtvrupevYrjWPsw/PN9QIvzX",
  "54UOusDTzGiRqCbT/OMEQZ43LqMhMHgx1HJPwkcg2XenyvqCas/7SKHfCfl7HQCn18Tly960cPorZpWacld+eG0F",
  "ZEec60gQU2qm2s/7IghgpS/2RzBtFFhdjiHZ9QTMq85Z6/BXDY2Unu8/loAtQk5Hp/e13JhowOM4nP9+Fw2b1Uz5",
  "XkZVDKeDpsLw1R2rm9YQ9yoyF/v9PMu0oTxdkPLvQnu8jwNSYBT295UtagZmtInVSERu6PjS+HS2yxBHfITab5WB",
  "JwVWXaW0ybmZkzA60dPD9TO/hpuCoCIj2qtQKTKEOLsp7o029aAioTMa6eTuDfNIwirNaUgke5GNHI2mvJWHmOvR",
  "hUvzcJm10aRxqmN1jT8Y/W+77LftJS4Naixk8NKbGRebcj40lM6r+jFP7PanoQNPGMzKWSWyUtIxAFm7qXF73aOK",
  "ZL9CSOPMIjqU0+JlEADjA+jkiWj3Crp2la/VcnMSUhfFBRzDjeAx01WtmwBSAt1Lg+DJNr51Kf2uBS/Qp1jSlWNw",
  "amuaswSdI8oxHL58sKHOwvYOgRBd33EKSG2+SOaXX2yxausa1QUbyFDhLgLDpUKO1U/l1hSfTrpFlbAtZY1bh5MC",
  "srzWQN25h81jTLohKYTffsa6FYza89RzVVTqEcsA0kpxjNqfh49ZaTAHFMNOEx541unrj+N4URl4xqtoDqzHRUAN",
  "OPZkWNFHxlGiv1juW69/StqjemLhdeSmIyQgkMgvYk3eFr6umjpD/ZsEippdKFa9TuTeSzvFcJiBK1qXGDNwPlO7",
  "kTmMbE/3+0ea92aKcPor2BsBz7I2K1R8t7ZKu1Pk+e1fUOjPc+fRl1/DDAMvf3rivKuxgiUVWBFQ79PkDHtjssli",
  "+VT+03fKPIUTXbxNXup1DUwwPjAhMAkGBSsOAwIaBQAEFPVSgvNPXPP+iIFBrWWN2+anhziPBBQoDJQMXUr2uRJG",
  "QffZaNfw8iKDpwIDAYag"]

/-- The bundle of certificates. -/
def certificate : List UInt8 :=
  (Text.Base64.decode? certificateText.toList).getD []

end LoggingOperator.Manifest.Assets
