import Stencil.Text.Basic

/-! # Letters with marks and letters that are variants

A letter with a mark may be written as one code point or as two: one table holds the pairs, by their
marks, and one the classes of marks, which say in what order several marks stand behind a letter.
Wide and narrow letters, letters of a mathematical alphabet, ligatures and ideographs that were
taken over from older sets are variants: each stands for one or more plain letters. The tables hold
those code points of which identifiers may be made.
-/

namespace Stencil.Compatibility

/-- The code points that stand for a letter with a mark: the mark, and the letters with what each
of them makes together with it. -/
def composites : List (CodePoint × List (CodePoint × CodePoint)) :=
  [(768, [(65, 192), (69, 200), (73, 204), (78, 504), (79, 210), (85, 217), (87, 7808), (89, 7922),
    (97, 224), (101, 232), (105, 236), (110, 505), (111, 242), (117, 249), (119, 7809),
    (121, 7923), (194, 7846), (202, 7872), (212, 7890), (220, 475), (226, 7847), (234, 7873),
    (244, 7891), (252, 476), (258, 7856), (259, 7857), (274, 7700), (275, 7701), (332, 7760),
    (333, 7761), (416, 7900), (417, 7901), (431, 7914), (432, 7915), (913, 8122), (917, 8136),
    (919, 8138), (921, 8154), (927, 8184), (933, 8170), (937, 8186), (945, 8048), (949, 8050),
    (951, 8052), (953, 8054), (959, 8056), (965, 8058), (969, 8060), (970, 8146), (971, 8162),
    (1045, 1024), (1048, 1037), (1077, 1104), (1080, 1117), (7936, 7938), (7937, 7939),
    (7944, 7946), (7945, 7947), (7952, 7954), (7953, 7955), (7960, 7962), (7961, 7963),
    (7968, 7970), (7969, 7971), (7976, 7978), (7977, 7979), (7984, 7986), (7985, 7987),
    (7992, 7994), (7993, 7995), (8000, 8002), (8001, 8003), (8008, 8010), (8009, 8011),
    (8016, 8018), (8017, 8019), (8025, 8027), (8032, 8034), (8033, 8035), (8040, 8042),
    (8041, 8043)]), (769, [(65, 193), (67, 262), (69, 201), (71, 500), (73, 205), (75, 7728),
    (76, 313), (77, 7742), (78, 323), (79, 211), (80, 7764), (82, 340), (83, 346), (85, 218),
    (87, 7810), (89, 221), (90, 377), (97, 225), (99, 263), (101, 233), (103, 501), (105, 237),
    (107, 7729), (108, 314), (109, 7743), (110, 324), (111, 243), (112, 7765), (114, 341),
    (115, 347), (117, 250), (119, 7811), (121, 253), (122, 378), (194, 7844), (197, 506),
    (198, 508), (199, 7688), (202, 7870), (207, 7726), (212, 7888), (213, 7756), (216, 510),
    (220, 471), (226, 7845), (229, 507), (230, 509), (231, 7689), (234, 7871), (239, 7727),
    (244, 7889), (245, 7757), (248, 511), (252, 472), (258, 7854), (259, 7855), (274, 7702),
    (275, 7703), (332, 7762), (333, 7763), (360, 7800), (361, 7801), (416, 7898), (417, 7899),
    (431, 7912), (432, 7913), (913, 902), (917, 904), (919, 905), (921, 906), (927, 908),
    (933, 910), (937, 911), (945, 940), (949, 941), (951, 942), (953, 943), (959, 972), (965, 973),
    (969, 974), (970, 912), (971, 944), (978, 979), (1043, 1027), (1050, 1036), (1075, 1107),
    (1082, 1116), (7936, 7940), (7937, 7941), (7944, 7948), (7945, 7949), (7952, 7956),
    (7953, 7957), (7960, 7964), (7961, 7965), (7968, 7972), (7969, 7973), (7976, 7980),
    (7977, 7981), (7984, 7988), (7985, 7989), (7992, 7996), (7993, 7997), (8000, 8004),
    (8001, 8005), (8008, 8012), (8009, 8013), (8016, 8020), (8017, 8021), (8025, 8029),
    (8032, 8036), (8033, 8037), (8040, 8044), (8041, 8045)]), (770, [(65, 194), (67, 264),
    (69, 202), (71, 284), (72, 292), (73, 206), (74, 308), (79, 212), (83, 348), (85, 219),
    (87, 372), (89, 374), (90, 7824), (97, 226), (99, 265), (101, 234), (103, 285), (104, 293),
    (105, 238), (106, 309), (111, 244), (115, 349), (117, 251), (119, 373), (121, 375),
    (122, 7825), (7840, 7852), (7841, 7853), (7864, 7878), (7865, 7879), (7884, 7896),
    (7885, 7897)]), (771, [(65, 195), (69, 7868), (73, 296), (78, 209), (79, 213), (85, 360),
    (86, 7804), (89, 7928), (97, 227), (101, 7869), (105, 297), (110, 241), (111, 245), (117, 361),
    (118, 7805), (121, 7929), (194, 7850), (202, 7876), (212, 7894), (226, 7851), (234, 7877),
    (244, 7895), (258, 7860), (259, 7861), (416, 7904), (417, 7905), (431, 7918), (432, 7919)]),
    (772, [(65, 256), (69, 274), (71, 7712), (73, 298), (79, 332), (85, 362), (89, 562), (97, 257),
    (101, 275), (103, 7713), (105, 299), (111, 333), (117, 363), (121, 563), (196, 478),
    (198, 482), (213, 556), (214, 554), (220, 469), (228, 479), (230, 483), (245, 557), (246, 555),
    (252, 470), (490, 492), (491, 493), (550, 480), (551, 481), (558, 560), (559, 561),
    (913, 8121), (921, 8153), (933, 8169), (945, 8113), (953, 8145), (965, 8161), (1048, 1250),
    (1059, 1262), (1080, 1251), (1091, 1263), (7734, 7736), (7735, 7737), (7770, 7772),
    (7771, 7773)]), (774, [(65, 258), (69, 276), (71, 286), (73, 300), (79, 334), (85, 364),
    (97, 259), (101, 277), (103, 287), (105, 301), (111, 335), (117, 365), (552, 7708),
    (553, 7709), (913, 8120), (921, 8152), (933, 8168), (945, 8112), (953, 8144), (965, 8160),
    (1040, 1232), (1045, 1238), (1046, 1217), (1048, 1049), (1059, 1038), (1072, 1233),
    (1077, 1239), (1078, 1218), (1080, 1081), (1091, 1118), (7840, 7862), (7841, 7863)]),
    (775, [(65, 550), (66, 7682), (67, 266), (68, 7690), (69, 278), (70, 7710), (71, 288),
    (72, 7714), (73, 304), (77, 7744), (78, 7748), (79, 558), (80, 7766), (82, 7768), (83, 7776),
    (84, 7786), (87, 7814), (88, 7818), (89, 7822), (90, 379), (97, 551), (98, 7683), (99, 267),
    (100, 7691), (101, 279), (102, 7711), (103, 289), (104, 7715), (109, 7745), (110, 7749),
    (111, 559), (112, 7767), (114, 7769), (115, 7777), (116, 7787), (119, 7815), (120, 7819),
    (121, 7823), (122, 380), (346, 7780), (347, 7781), (352, 7782), (353, 7783), (383, 7835),
    (7778, 7784), (7779, 7785)]), (776, [(65, 196), (69, 203), (72, 7718), (73, 207), (79, 214),
    (85, 220), (87, 7812), (88, 7820), (89, 376), (97, 228), (101, 235), (104, 7719), (105, 239),
    (111, 246), (116, 7831), (117, 252), (119, 7813), (120, 7821), (121, 255), (213, 7758),
    (245, 7759), (362, 7802), (363, 7803), (921, 938), (933, 939), (953, 970), (965, 971),
    (978, 980), (1030, 1031), (1040, 1234), (1045, 1025), (1046, 1244), (1047, 1246), (1048, 1252),
    (1054, 1254), (1059, 1264), (1063, 1268), (1067, 1272), (1069, 1260), (1072, 1235),
    (1077, 1105), (1078, 1245), (1079, 1247), (1080, 1253), (1086, 1255), (1091, 1265),
    (1095, 1269), (1099, 1273), (1101, 1261), (1110, 1111), (1240, 1242), (1241, 1243),
    (1256, 1258), (1257, 1259)]), (777, [(65, 7842), (69, 7866), (73, 7880), (79, 7886),
    (85, 7910), (89, 7926), (97, 7843), (101, 7867), (105, 7881), (111, 7887), (117, 7911),
    (121, 7927), (194, 7848), (202, 7874), (212, 7892), (226, 7849), (234, 7875), (244, 7893),
    (258, 7858), (259, 7859), (416, 7902), (417, 7903), (431, 7916), (432, 7917)]),
    (778, [(65, 197), (85, 366), (97, 229), (117, 367), (119, 7832), (121, 7833)]),
    (779, [(79, 336), (85, 368), (111, 337), (117, 369), (1059, 1266), (1091, 1267)]),
    (780, [(65, 461), (67, 268), (68, 270), (69, 282), (71, 486), (72, 542), (73, 463), (75, 488),
    (76, 317), (78, 327), (79, 465), (82, 344), (83, 352), (84, 356), (85, 467), (90, 381),
    (97, 462), (99, 269), (100, 271), (101, 283), (103, 487), (104, 543), (105, 464), (106, 496),
    (107, 489), (108, 318), (110, 328), (111, 466), (114, 345), (115, 353), (116, 357), (117, 468),
    (122, 382), (220, 473), (252, 474), (439, 494), (658, 495)]), (783, [(65, 512), (69, 516),
    (73, 520), (79, 524), (82, 528), (85, 532), (97, 513), (101, 517), (105, 521), (111, 525),
    (114, 529), (117, 533), (1140, 1142), (1141, 1143)]), (785, [(65, 514), (69, 518), (73, 522),
    (79, 526), (82, 530), (85, 534), (97, 515), (101, 519), (105, 523), (111, 527), (114, 531),
    (117, 535)]), (787, [(913, 7944), (917, 7960), (919, 7976), (921, 7992), (927, 8008),
    (937, 8040), (945, 7936), (949, 7952), (951, 7968), (953, 7984), (959, 8000), (961, 8164),
    (965, 8016), (969, 8032)]), (788, [(913, 7945), (917, 7961), (919, 7977), (921, 7993),
    (927, 8009), (929, 8172), (933, 8025), (937, 8041), (945, 7937), (949, 7953), (951, 7969),
    (953, 7985), (959, 8001), (961, 8165), (965, 8017), (969, 8033)]), (795, [(79, 416), (85, 431),
    (111, 417), (117, 432)]), (803, [(65, 7840), (66, 7684), (68, 7692), (69, 7864), (72, 7716),
    (73, 7882), (75, 7730), (76, 7734), (77, 7746), (78, 7750), (79, 7884), (82, 7770), (83, 7778),
    (84, 7788), (85, 7908), (86, 7806), (87, 7816), (89, 7924), (90, 7826), (97, 7841), (98, 7685),
    (100, 7693), (101, 7865), (104, 7717), (105, 7883), (107, 7731), (108, 7735), (109, 7747),
    (110, 7751), (111, 7885), (114, 7771), (115, 7779), (116, 7789), (117, 7909), (118, 7807),
    (119, 7817), (121, 7925), (122, 7827), (416, 7906), (417, 7907), (431, 7920), (432, 7921)]),
    (804, [(85, 7794), (117, 7795)]), (805, [(65, 7680), (97, 7681)]), (806, [(83, 536), (84, 538),
    (115, 537), (116, 539)]), (807, [(67, 199), (68, 7696), (69, 552), (71, 290), (72, 7720),
    (75, 310), (76, 315), (78, 325), (82, 342), (83, 350), (84, 354), (99, 231), (100, 7697),
    (101, 553), (103, 291), (104, 7721), (107, 311), (108, 316), (110, 326), (114, 343),
    (115, 351), (116, 355)]), (808, [(65, 260), (69, 280), (73, 302), (79, 490), (85, 370),
    (97, 261), (101, 281), (105, 303), (111, 491), (117, 371)]), (813, [(68, 7698), (69, 7704),
    (76, 7740), (78, 7754), (84, 7792), (85, 7798), (100, 7699), (101, 7705), (108, 7741),
    (110, 7755), (116, 7793), (117, 7799)]), (814, [(72, 7722), (104, 7723)]), (816, [(69, 7706),
    (73, 7724), (85, 7796), (101, 7707), (105, 7725), (117, 7797)]), (817, [(66, 7686), (68, 7694),
    (75, 7732), (76, 7738), (78, 7752), (82, 7774), (84, 7790), (90, 7828), (98, 7687),
    (100, 7695), (104, 7830), (107, 7733), (108, 7739), (110, 7753), (114, 7775), (116, 7791),
    (122, 7829)]), (834, [(945, 8118), (951, 8134), (953, 8150), (965, 8166), (969, 8182),
    (970, 8151), (971, 8167), (7936, 7942), (7937, 7943), (7944, 7950), (7945, 7951), (7968, 7974),
    (7969, 7975), (7976, 7982), (7977, 7983), (7984, 7990), (7985, 7991), (7992, 7998),
    (7993, 7999), (8016, 8022), (8017, 8023), (8025, 8031), (8032, 8038), (8033, 8039),
    (8040, 8046), (8041, 8047)]), (837, [(913, 8124), (919, 8140), (937, 8188), (940, 8116),
    (942, 8132), (945, 8115), (951, 8131), (969, 8179), (974, 8180), (7936, 8064), (7937, 8065),
    (7938, 8066), (7939, 8067), (7940, 8068), (7941, 8069), (7942, 8070), (7943, 8071),
    (7944, 8072), (7945, 8073), (7946, 8074), (7947, 8075), (7948, 8076), (7949, 8077),
    (7950, 8078), (7951, 8079), (7968, 8080), (7969, 8081), (7970, 8082), (7971, 8083),
    (7972, 8084), (7973, 8085), (7974, 8086), (7975, 8087), (7976, 8088), (7977, 8089),
    (7978, 8090), (7979, 8091), (7980, 8092), (7981, 8093), (7982, 8094), (7983, 8095),
    (8032, 8096), (8033, 8097), (8034, 8098), (8035, 8099), (8036, 8100), (8037, 8101),
    (8038, 8102), (8039, 8103), (8040, 8104), (8041, 8105), (8042, 8106), (8043, 8107),
    (8044, 8108), (8045, 8109), (8046, 8110), (8047, 8111), (8048, 8114), (8052, 8130),
    (8060, 8178), (8118, 8119), (8134, 8135), (8182, 8183)]), (1619, [(1575, 1570)]),
    (1620, [(1575, 1571), (1608, 1572), (1610, 1574), (1729, 1730), (1746, 1747), (1749, 1728)]),
    (1621, [(1575, 1573)]), (2364, [(2344, 2345), (2352, 2353), (2355, 2356)]),
    (2494, [(2503, 2507)]), (2519, [(2503, 2508)]), (2878, [(2887, 2891)]), (2902, [(2887, 2888)]),
    (2903, [(2887, 2892)]), (3006, [(3014, 3018), (3015, 3019)]), (3031, [(2962, 2964),
    (3014, 3020)]), (3158, [(3142, 3144)]), (3266, [(3270, 3274)]), (3285, [(3263, 3264),
    (3270, 3271), (3274, 3275)]), (3286, [(3270, 3272)]), (3390, [(3398, 3402), (3399, 3403)]),
    (3415, [(3398, 3404)]), (3530, [(3545, 3546), (3548, 3549)]), (3535, [(3545, 3548)]),
    (3551, [(3545, 3550)]), (4142, [(4133, 4134)]), (6965, [(6917, 6918), (6919, 6920),
    (6921, 6922), (6923, 6924), (6925, 6926), (6929, 6930), (6970, 6971), (6972, 6973),
    (6974, 6976), (6975, 6977), (6978, 6979)]), (12441, [(12358, 12436), (12363, 12364),
    (12365, 12366), (12367, 12368), (12369, 12370), (12371, 12372), (12373, 12374), (12375, 12376),
    (12377, 12378), (12379, 12380), (12381, 12382), (12383, 12384), (12385, 12386), (12388, 12389),
    (12390, 12391), (12392, 12393), (12399, 12400), (12402, 12403), (12405, 12406), (12408, 12409),
    (12411, 12412), (12445, 12446), (12454, 12532), (12459, 12460), (12461, 12462), (12463, 12464),
    (12465, 12466), (12467, 12468), (12469, 12470), (12471, 12472), (12473, 12474), (12475, 12476),
    (12477, 12478), (12479, 12480), (12481, 12482), (12484, 12485), (12486, 12487), (12488, 12489),
    (12495, 12496), (12498, 12499), (12501, 12502), (12504, 12505), (12507, 12508), (12527, 12535),
    (12528, 12536), (12529, 12537), (12530, 12538), (12541, 12542)]), (12442, [(12399, 12401),
    (12402, 12404), (12405, 12407), (12408, 12410), (12411, 12413), (12495, 12497), (12498, 12500),
    (12501, 12503), (12504, 12506), (12507, 12509)]), (69818, [(69785, 69786), (69787, 69788),
    (69797, 69803)]), (69927, [(69937, 69934), (69938, 69935)]), (70462, [(70471, 70475)]),
    (70487, [(70471, 70476)]), (70832, [(70841, 70844)]), (70842, [(70841, 70843)]),
    (70845, [(70841, 70846)]), (71087, [(71096, 71098), (71097, 71099)]),
    (71984, [(71989, 71992)])]

/-- The classes of marks, with the marks of each class. -/
def markClasses : List (Nat × Intervals) :=
  [(1, [(820, 824), (7380, 7380), (7394, 7400), (8402, 8403), (8408, 8410), (8421, 8422),
    (8426, 8427), (68153, 68153), (92912, 92916), (113822, 113822), (119143, 119145)]),
    (6, [(94192, 94193)]), (7, [(2364, 2364), (2492, 2492), (2620, 2620), (2748, 2748),
    (2876, 2876), (3132, 3132), (3260, 3260), (4151, 4151), (6964, 6964), (7142, 7142),
    (7223, 7223), (43443, 43443), (69818, 69818), (70003, 70003), (70090, 70090), (70198, 70198),
    (70377, 70377), (70459, 70460), (70726, 70726), (70851, 70851), (71104, 71104), (71351, 71351),
    (71738, 71738), (72003, 72003), (73026, 73026), (125258, 125258)]), (8, [(12441, 12442)]),
    (9, [(2381, 2381), (2509, 2509), (2637, 2637), (2765, 2765), (2893, 2893), (3021, 3021),
    (3149, 3149), (3277, 3277), (3387, 3388), (3405, 3405), (3530, 3530), (3642, 3642),
    (3770, 3770), (3972, 3972), (4153, 4154), (5908, 5909), (5940, 5940), (6098, 6098),
    (6752, 6752), (6980, 6980), (7082, 7083), (7154, 7155), (11647, 11647), (43014, 43014),
    (43052, 43052), (43204, 43204), (43347, 43347), (43456, 43456), (43766, 43766), (44013, 44013),
    (68159, 68159), (69702, 69702), (69744, 69744), (69759, 69759), (69817, 69817), (69939, 69940),
    (70080, 70080), (70197, 70197), (70378, 70378), (70477, 70477), (70722, 70722), (70850, 70850),
    (71103, 71103), (71231, 71231), (71350, 71350), (71467, 71467), (71737, 71737), (71997, 71998),
    (72160, 72160), (72244, 72244), (72263, 72263), (72345, 72345), (72767, 72767), (73028, 73029),
    (73111, 73111)]), (10, [(1456, 1456)]), (11, [(1457, 1457)]), (12, [(1458, 1458)]),
    (13, [(1459, 1459)]), (14, [(1460, 1460)]), (15, [(1461, 1461)]), (16, [(1462, 1462)]),
    (17, [(1463, 1463)]), (18, [(1464, 1464), (1479, 1479)]), (19, [(1465, 1466)]),
    (20, [(1467, 1467)]), (21, [(1468, 1468)]), (22, [(1469, 1469)]), (23, [(1471, 1471)]),
    (24, [(1473, 1473)]), (25, [(1474, 1474)]), (26, [(64286, 64286)]), (27, [(1611, 1611),
    (2288, 2288)]), (28, [(1612, 1612), (2289, 2289)]), (29, [(1613, 1613), (2290, 2290)]),
    (30, [(1560, 1560), (1614, 1614)]), (31, [(1561, 1561), (1615, 1615)]), (32, [(1562, 1562),
    (1616, 1616)]), (33, [(1617, 1617)]), (34, [(1618, 1618)]), (35, [(1648, 1648)]),
    (36, [(1809, 1809)]), (84, [(3157, 3157)]), (91, [(3158, 3158)]), (103, [(3640, 3641)]),
    (107, [(3656, 3659)]), (118, [(3768, 3769)]), (122, [(3784, 3787)]), (129, [(3953, 3953)]),
    (130, [(3954, 3954), (3962, 3965), (3968, 3968)]), (132, [(3956, 3956)]), (202, [(801, 802),
    (807, 808), (7632, 7632)]), (214, [(7630, 7630)]), (216, [(795, 795), (3897, 3897),
    (119141, 119142), (119150, 119154)]), (218, [(7674, 7674), (12330, 12330)]), (220, [(790, 793),
    (796, 800), (803, 806), (809, 819), (825, 828), (839, 841), (845, 846), (851, 854), (857, 858),
    (1425, 1425), (1430, 1430), (1435, 1435), (1442, 1447), (1450, 1450), (1477, 1477),
    (1621, 1622), (1628, 1628), (1631, 1631), (1763, 1763), (1770, 1770), (1773, 1773),
    (1841, 1841), (1844, 1844), (1847, 1849), (1851, 1852), (1854, 1854), (1858, 1858),
    (1860, 1860), (1862, 1862), (1864, 1864), (2034, 2034), (2045, 2045), (2137, 2139),
    (2201, 2203), (2255, 2259), (2275, 2275), (2278, 2278), (2281, 2281), (2285, 2287),
    (2294, 2294), (2297, 2298), (2386, 2386), (3864, 3865), (3893, 3893), (3895, 3895),
    (4038, 4038), (4237, 4237), (6459, 6459), (6680, 6680), (6783, 6783), (6837, 6842),
    (6845, 6845), (6847, 6848), (6851, 6852), (6858, 6858), (7020, 7020), (7381, 7385),
    (7388, 7391), (7405, 7405), (7618, 7618), (7626, 7626), (7631, 7631), (7673, 7673),
    (7677, 7677), (7679, 7679), (8424, 8424), (8428, 8431), (43307, 43309), (43700, 43700),
    (65063, 65069), (66045, 66045), (66272, 66272), (68109, 68109), (68154, 68154), (68326, 68326),
    (69446, 69447), (69451, 69451), (69453, 69456), (69507, 69507), (69509, 69509),
    (119163, 119170), (119178, 119179), (125136, 125142)]), (222, [(1434, 1434), (1453, 1453),
    (6457, 6457), (12333, 12333)]), (224, [(12334, 12335)]), (226, [(119149, 119149)]),
    (228, [(1454, 1454), (6313, 6313), (7671, 7672), (12331, 12331)]), (230, [(768, 788),
    (829, 836), (838, 838), (842, 844), (848, 850), (855, 855), (859, 859), (867, 879),
    (1155, 1159), (1426, 1429), (1431, 1433), (1436, 1441), (1448, 1449), (1451, 1452),
    (1455, 1455), (1476, 1476), (1552, 1559), (1619, 1620), (1623, 1627), (1629, 1630),
    (1750, 1756), (1759, 1762), (1764, 1764), (1767, 1768), (1771, 1772), (1840, 1840),
    (1842, 1843), (1845, 1846), (1850, 1850), (1853, 1853), (1855, 1857), (1859, 1859),
    (1861, 1861), (1863, 1863), (1865, 1866), (2027, 2033), (2035, 2035), (2070, 2073),
    (2075, 2083), (2085, 2087), (2089, 2093), (2200, 2200), (2204, 2207), (2250, 2254),
    (2260, 2273), (2276, 2277), (2279, 2280), (2282, 2284), (2291, 2293), (2295, 2296),
    (2299, 2303), (2385, 2385), (2387, 2388), (2558, 2558), (3970, 3971), (3974, 3975),
    (4957, 4959), (6109, 6109), (6458, 6458), (6679, 6679), (6773, 6780), (6832, 6836),
    (6843, 6844), (6849, 6850), (6853, 6857), (6859, 6862), (7019, 7019), (7021, 7027),
    (7376, 7378), (7386, 7387), (7392, 7392), (7412, 7412), (7416, 7417), (7616, 7617),
    (7619, 7625), (7627, 7628), (7633, 7669), (7675, 7675), (7678, 7678), (8400, 8401),
    (8404, 8407), (8411, 8412), (8417, 8417), (8423, 8423), (8425, 8425), (8432, 8432),
    (11503, 11505), (11744, 11775), (42607, 42607), (42612, 42621), (42654, 42655), (42736, 42737),
    (43232, 43249), (43696, 43696), (43698, 43699), (43703, 43704), (43710, 43711), (43713, 43713),
    (65056, 65062), (65070, 65071), (66422, 66426), (68111, 68111), (68152, 68152), (68325, 68325),
    (68900, 68903), (69291, 69292), (69448, 69450), (69452, 69452), (69506, 69506), (69508, 69508),
    (69888, 69890), (70502, 70508), (70512, 70516), (70750, 70750), (92976, 92982),
    (119173, 119177), (119210, 119213), (119362, 119364), (122880, 122886), (122888, 122904),
    (122907, 122913), (122915, 122916), (122918, 122922), (123184, 123190), (123566, 123566),
    (123628, 123631), (125252, 125257)]), (232, [(789, 789), (794, 794), (856, 856), (7670, 7670),
    (12332, 12332)]), (233, [(860, 860), (863, 863), (866, 866), (7676, 7676)]), (234, [(861, 862),
    (864, 865), (7629, 7629)]), (240, [(837, 837)])]

/-- Neighbours that stand for neighbours: the first and the last of them, and what the first one
stands for. -/
def shifts : List (CodePoint × CodePoint × CodePoint) :=
  [(7475, 7482, 71), (7598, 7601, 626), (8342, 8345, 107), (8501, 8504, 1488),
    (12602, 12607, 4528), (12613, 12622, 4361), (12623, 12643, 4449), (12664, 12668, 4395),
    (65296, 65305, 48), (65313, 65338, 65), (65345, 65370, 97), (65413, 65418, 12490),
    (65423, 65427, 12510), (65430, 65435, 12520), (65450, 65455, 4528), (65461, 65470, 4361),
    (65474, 65479, 4449), (65482, 65487, 4455), (65490, 65495, 4461), (119808, 119833, 65),
    (119834, 119859, 97), (119860, 119885, 65), (119886, 119892, 97), (119894, 119911, 105),
    (119912, 119937, 65), (119938, 119963, 97), (119977, 119980, 78), (119982, 119989, 83),
    (119990, 119993, 97), (119997, 120003, 104), (120005, 120015, 112), (120016, 120041, 65),
    (120042, 120067, 97), (120071, 120074, 68), (120077, 120084, 74), (120086, 120092, 83),
    (120094, 120119, 97), (120123, 120126, 68), (120128, 120132, 73), (120138, 120144, 83),
    (120146, 120171, 97), (120172, 120197, 65), (120198, 120223, 97), (120224, 120249, 65),
    (120250, 120275, 97), (120276, 120301, 65), (120302, 120327, 97), (120328, 120353, 65),
    (120354, 120379, 97), (120380, 120405, 65), (120406, 120431, 97), (120432, 120457, 65),
    (120458, 120483, 97), (120488, 120504, 913), (120506, 120512, 931), (120514, 120538, 945),
    (120546, 120562, 913), (120564, 120570, 931), (120572, 120596, 945), (120604, 120620, 913),
    (120622, 120628, 931), (120630, 120654, 945), (120662, 120678, 913), (120680, 120686, 931),
    (120688, 120712, 945), (120720, 120736, 913), (120738, 120744, 931), (120746, 120770, 945),
    (120782, 120791, 48), (120792, 120801, 48), (120802, 120811, 48), (120812, 120821, 48),
    (120822, 120831, 48), (126474, 126477, 1603), (126506, 126509, 1603), (130032, 130041, 48)]

/-- Letters that stand for one other: the first of some neighbours, and what they stand for. -/
def variants : List (CodePoint × Text) :=
  [(170, [97]), (181, [956]), (186, [111]), (383, [115]), (688, [104, 614, 106, 114, 633, 635, 641,
    119, 121]), (736, [611, 108, 115, 120, 661]), (832, [768, 769]), (835, [787]), (884, [697]),
    (903, [183]), (976, [946, 952, 933]), (981, [966, 960]), (1008, [954, 961, 962]), (1012, [920,
    949]), (1017, [931]), (4348, [4316]), (7468, [65, 198, 66]), (7472, [68, 69, 398]), (7484, [79,
    546, 80, 82, 84, 85, 87, 97, 592, 593, 7426, 98, 100, 101, 601, 603, 604, 103]), (7503, [107,
    109, 331, 111, 596, 7446, 7447, 112, 116, 117, 7453, 623, 118, 7461, 946, 947, 948, 966, 967,
    105, 114, 117, 118, 946, 947, 961, 966, 967]), (7544, [1085]), (7579, [594, 99, 597, 240, 604,
    102, 607, 609, 613, 616, 617, 618, 7547, 669, 621, 7557, 671, 625, 624]), (7602, [632, 642,
    643, 427, 649, 650, 7452, 651, 652, 122, 656, 657, 658, 952]), (8126, [953]), (8305, [105]),
    (8319, [110]), (8336, [97, 101, 111, 120, 601, 104]), (8346, [112, 115, 116]), (8450, [67]),
    (8455, [400]), (8458, [103, 72, 72, 72, 104, 295, 73, 73, 76, 108]), (8469, [78]), (8473, [80,
    81, 82, 82, 82]), (8484, [90]), (8486, [937]), (8488, [90]), (8490, [75]), (8492, [66, 67]),
    (8495, [101, 69, 70]), (8499, [77, 111]), (8505, [105]), (8508, [960, 947, 915, 928]),
    (8517, [68, 100, 101, 105, 106]), (8544, [73]), (8548, [86]), (8553, [88]), (8556, [76, 67, 68,
    77, 105]), (8564, [118]), (8569, [120]), (8572, [108, 99, 100, 109]), (11388, [106, 86]),
    (11631, [11617]), (12593, [4352, 4353, 4522, 4354, 4524, 4525, 4355, 4356, 4357]),
    (12608, [4378, 4358, 4359, 4360, 4385]), (12644, [4448, 4372, 4373, 4551, 4552, 4556, 4558,
    4563, 4567, 4569, 4380, 4573, 4575, 4381, 4382, 4384, 4386, 4387, 4391, 4393]), (12669, [4402,
    4406, 4416, 4423, 4428, 4593, 4594, 4439, 4440, 4441, 4484, 4485, 4488, 4497, 4498, 4500, 4510,
    4513]), (42652, [1098, 1100]), (42864, [42863]), (42994, [67, 70, 81]), (43000, [294, 339]),
    (43868, [42791, 43831, 619, 43858]), (43881, [653]), (64288, [1506, 1488, 1491, 1492, 1499,
    1500, 1501, 1512, 1514]), (64336, [1649, 1649, 1659, 1659, 1659, 1659, 1662, 1662, 1662, 1662,
    1664, 1664, 1664, 1664, 1658, 1658, 1658, 1658, 1663, 1663, 1663, 1663, 1657, 1657, 1657, 1657,
    1700, 1700, 1700, 1700, 1702, 1702, 1702, 1702, 1668, 1668, 1668, 1668, 1667, 1667, 1667, 1667,
    1670, 1670, 1670, 1670, 1671, 1671, 1671, 1671, 1677, 1677, 1676, 1676, 1678, 1678, 1672, 1672,
    1688, 1688, 1681, 1681, 1705, 1705, 1705, 1705, 1711, 1711, 1711, 1711, 1715, 1715, 1715, 1715,
    1713, 1713, 1713, 1713, 1722, 1722, 1723, 1723, 1723, 1723]), (64422, [1729, 1729, 1729, 1729,
    1726, 1726, 1726, 1726, 1746, 1746]), (64467, [1709, 1709, 1709, 1709, 1735, 1735, 1734, 1734,
    1736, 1736]), (64478, [1739, 1739, 1733, 1733, 1737, 1737, 1744, 1744, 1744, 1744, 1609,
    1609]), (64508, [1740, 1740, 1740, 1740]), (65075, [95, 95]), (65101, [95, 95, 95]),
    (65152, [1569]), (65165, [1575, 1575, 1576, 1576, 1576, 1576, 1577, 1577, 1578, 1578, 1578,
    1578, 1579, 1579, 1579, 1579, 1580, 1580, 1580, 1580, 1581, 1581, 1581, 1581, 1582, 1582, 1582,
    1582, 1583, 1583, 1584, 1584, 1585, 1585, 1586, 1586, 1587, 1587, 1587, 1587, 1588, 1588, 1588,
    1588, 1589, 1589, 1589, 1589, 1590, 1590, 1590, 1590, 1591, 1591, 1591, 1591, 1592, 1592, 1592,
    1592, 1593, 1593, 1593, 1593, 1594, 1594, 1594, 1594, 1601, 1601, 1601, 1601, 1602, 1602, 1602,
    1602, 1603, 1603, 1603, 1603, 1604, 1604, 1604, 1604, 1605, 1605, 1605, 1605, 1606, 1606, 1606,
    1606, 1607, 1607, 1607, 1607, 1608, 1608, 1609, 1609, 1610, 1610, 1610, 1610]), (65343, [95]),
    (65382, [12530, 12449, 12451, 12453, 12455, 12457, 12515, 12517, 12519, 12483, 12540, 12450,
    12452, 12454, 12456, 12458, 12459, 12461, 12463, 12465, 12467, 12469, 12471, 12473, 12475,
    12477, 12479, 12481, 12484, 12486, 12488]), (65419, [12498, 12501, 12504, 12507]),
    (65428, [12516, 12518]), (65436, [12527, 12531, 12441, 12442, 4448, 4352, 4353, 4522, 4354,
    4524, 4525, 4355, 4356, 4357]), (65456, [4378, 4358, 4359, 4360, 4385]), (65498, [4467, 4468,
    4469]), (67457, [720, 721, 230, 665, 595]), (67463, [675, 43878, 677, 676, 598, 599, 7569, 600,
    606, 681, 612, 610, 608, 667, 295, 668, 615, 644, 682, 683, 620, 122628, 42894, 622, 122629,
    654, 122630, 248, 630, 631, 113, 634, 122632, 637, 638, 640, 680, 678, 43879, 679, 648,
    11377]), (67506, [655, 673, 674, 664, 448, 449, 450, 122634, 122654]), (119964, [65]),
    (119966, [67, 68]), (119970, [71]), (119973, [74, 75]), (119995, [102]), (120068, [65, 66]),
    (120120, [65, 66]), (120134, [79]), (120484, [305, 567]), (120505, [920]), (120540, [949, 952,
    954, 966, 961, 960]), (120563, [920]), (120598, [949, 952, 954, 966, 961, 960]),
    (120621, [920]), (120656, [949, 952, 954, 966, 961, 960]), (120679, [920]), (120714, [949, 952,
    954, 966, 961, 960]), (120737, [920]), (120772, [949, 952, 954, 966, 961, 960, 988, 989]),
    (126464, [1575, 1576, 1580, 1583]), (126469, [1608, 1586, 1581, 1591, 1610]), (126478, [1587,
    1593, 1601, 1589, 1602, 1585, 1588, 1578, 1579, 1582, 1584, 1590, 1592, 1594, 1646, 1722, 1697,
    1647]), (126497, [1576, 1580]), (126500, [1607]), (126503, [1581]), (126505, [1610]),
    (126510, [1587, 1593, 1601, 1589, 1602]), (126516, [1588, 1578, 1579, 1582]), (126521, [1590]),
    (126523, [1594]), (126530, [1580]), (126535, [1581]), (126537, [1610]), (126539, [1604]),
    (126541, [1606, 1587, 1593]), (126545, [1589, 1602]), (126548, [1588]), (126551, [1582]),
    (126553, [1590]), (126555, [1594]), (126557, [1722]), (126559, [1647]), (126561, [1576, 1580]),
    (126564, [1607]), (126567, [1581, 1591, 1610, 1603]), (126572, [1605, 1606, 1587, 1593, 1601,
    1589, 1602]), (126580, [1588, 1578, 1579, 1582]), (126585, [1590, 1592, 1594, 1646]),
    (126590, [1697]), (126592, [1575, 1576, 1580, 1583, 1607, 1608, 1586, 1581, 1591, 1610]),
    (126603, [1604, 1605, 1606, 1587, 1593, 1601, 1589, 1602, 1585, 1588, 1578, 1579, 1582, 1584,
    1590, 1592, 1594]), (126625, [1576, 1580, 1583]), (126629, [1608, 1586, 1581, 1591, 1610]),
    (126635, [1604, 1605, 1606, 1587, 1593, 1601, 1589, 1602, 1585, 1588, 1578, 1579, 1582, 1584,
    1590, 1592, 1594])]

/-- Ideographs that stand for one other: the first of some neighbours, and what they stand for. -/
def ideographs : List (CodePoint × Text) :=
  [(0x3038, text "十卄卅"),
    (0xF900,
      text "豈更車賈滑串句龜龜契金喇奈懶癩羅蘿螺裸邏樂洛烙珞落酪駱亂卵欄爛蘭鸞嵐濫藍襤拉臘蠟廊朗" ++
      text "浪狼郎來冷勞擄櫓爐盧老蘆虜路露魯鷺碌祿綠菉錄鹿論壟弄籠聾牢磊賂雷壘屢樓淚漏累縷陋勒肋" ++
      text "凜凌稜綾菱陵讀拏樂諾丹寧怒率異北磻便復不泌數索參塞省葉說殺辰沈拾若掠略亮兩凉梁糧良諒" ++
      text "量勵呂女廬旅濾礪閭驪麗黎力曆歷轢年憐戀撚漣煉璉秊練聯輦蓮連鍊列劣咽烈裂說廉念捻殮簾獵" ++
      text "令囹寧嶺怜玲瑩羚聆鈴零靈領例禮醴隸惡了僚寮尿料樂燎療蓼遼龍暈阮劉杻柳流溜琉留硫紐類六" ++
      text "戮陸倫崙淪輪律慄栗率隆利吏履易李梨泥理痢罹裏裡里離匿溺吝燐璘藺隣鱗麟林淋臨立笠粒狀炙" ++
      text "識什茶刺切度拓糖宅洞暴輻行降見廓兀嗀"),
    (0xFA10, text "塚"),
    (0xFA12, text "晴"),
    (0xFA15, text "凞猪益礼神祥福靖精羽"),
    (0xFA20, text "蘒"),
    (0xFA22, text "諸"),
    (0xFA25, text "逸都"),
    (0xFA2A,
      text "飯飼館鶴郞隷侮僧免勉勤卑喝嘆器塀墨層屮悔慨憎懲敏既暑梅海渚漢煮爫琢碑社祉祈祐祖祝禍禎" ++
      text "穀突節練縉繁署者臭艹艹著褐視謁謹賓贈辶逸難響頻恵𤋮舘"),
    (0xFA70,
      text "並况全侀充冀勇勺喝啕喙嗢塚墳奄奔婢嬨廒廙彩徭惘慎愈憎慠懲戴揄搜摒敖晴朗望杖歹殺流滛滋" ++
      text "漢瀞煮瞧爵犯猪瑱甆画瘝瘟益盛直睊着磌窱節类絛練缾者荒華蝹襁覆視調諸請謁諾諭謹變贈輸遲" ++
      text "醙鉶陼難靖韛響頋頻鬒龜𢡊𢡄𣏕㮝䀘䀹𥉉𥳐𧻓齃龎"),
    (0x2F800,
      text "丽丸乁𠄢你侮侻倂偺備僧像㒞𠘺免兔兤具𠔜㒹內再𠕋冗冤仌冬况𩇟凵刃㓟刻剆割剷㔕勇勉勤勺包" ++
      text "匆北卉卑博即卽卿卿卿𠨬灰及叟𠭣叫叱吆咞吸呈周咢哶唐啓啣善善喙喫喳嗂圖嘆圗噑噴切壮城埴" ++
      text "堍型堲報墬𡓤売壷夆多夢奢𡚨𡛪姬娛娧姘婦㛮㛼嬈嬾嬾𡧈寃寘寧寳𡬘寿将当尢㞁屠屮峀岍𡷤嵃𡷦" ++
      text "嵮嵫嵼巡巢㠯巽帨帽幩㡢𢆃㡼庰庳庶廊𪎒廾𢌱𢌱舁弢弢㣇𣊸𦇚形彫㣣徚忍志忹悁㤺㤜悔𢛔惇慈慌" ++
      text "慎慌慺憎憲憤憯懞懲懶成戛扝抱拔捐𢬌挽拼捨掃揤𢯱搢揅掩㨮摩摾撝摷㩬敏敬𣀊旣書晉㬙暑㬈㫤" ++
      text "冒冕最暜肭䏙朗望朡杞杓𣏃㭉柺枅桒梅𣑭梎栟椔㮝楂榣槪檨𣚣櫛㰘次𣢧歔㱎歲殟殺殻𣪍𡴋𣫺汎𣲼" ++
      text "沿泍汧洖派海流浩浸涅𣴞洴港湮㴳滋滇𣻑淹潮𣽞𣾎濆瀹瀞瀛㶖灊災灷炭𠔥煅𤉣熜𤎫爨爵牐𤘈犀犕" ++
      text "𤜵𤠔獺王㺬玥㺸㺸瑇瑜瑱璅瓊㼛甤𤰶甾𤲒異𢆟瘐𤾡𤾸𥁄㿼䀈直𥃳𥃲𥄙𥄳眞真真睊䀹瞋䁆䂖𥐝硎碌" ++
      text "磌䃣𥘦祖𥚚𥛅福秫䄯穀穊穏𥥼𥪧𥪧竮䈂𥮫篆築䈧𥲀糒䊠糨糣紀𥾆絣䌁緇縂繅䌴𦈨𦉇䍙𦋙罺𦌾羕翺" ++
      text "者𦓚𦔣聠𦖨聰𣍟䏕育脃䐋脾媵𦞧𦞵𣎓𣎜舁舄辞䑫芑芋芝劳花芳芽苦𦬼若茝荣莭茣莽菧著荓菊菌菜" ++
      text "𦰶𦵫𦳕䔫蓱蓳蔖𧏊蕤𦼬䕝䕡𦾱𧃒䕫虐虜虧虩蚩蚈蜎蛢蝹蜨蝫螆䗗蟡蠁䗹衠衣𧙧裗裞䘵裺㒻𧢮𧥦䚾" ++
      text "䛇誠諭變豕𧲨貫賁贛起𧼯𠠄跋趼跰𠣞軔輸𨗒𨗭邔郱鄑𨜮鄛鈸鋗鋘鉼鏹鐕𨯺開䦕閷𨵷䧦雃嶲霣𩅅𩈚" ++
      text "䩮䩶韠𩐊䪲𩒖頋頋頩𩖶飢䬳餩馧駂駾䯎𩬰鬒鱀鳽䳎䳭鵧𪃎䳸𪄅𪈎𪊑麻䵖黹黾鼅鼏鼖鼻𪘀")]

/-- Letters that stand for several: the first of some neighbours, and what they stand for. -/
def ligatures : List (CodePoint × List Text) :=
  [(306, [[73, 74], [105, 106]]), (319, [[76, 183], [108, 183]]), (329, [[700, 110]]), (452, [[68,
    90, 780], [68, 122, 780], [100, 122, 780], [76, 74], [76, 106], [108, 106], [78, 74], [78,
    106], [110, 106]]), (497, [[68, 90], [68, 122], [100, 122]]), (836, [[776, 769]]),
    (1415, [[1381, 1410]]), (1653, [[1575, 1652], [1608, 1652], [1735, 1652], [1610, 1652]]),
    (2392, [[2325, 2364], [2326, 2364], [2327, 2364], [2332, 2364], [2337, 2364], [2338, 2364],
    [2347, 2364], [2351, 2364]]), (2524, [[2465, 2492], [2466, 2492]]), (2527, [[2479, 2492]]),
    (2611, [[2610, 2620]]), (2614, [[2616, 2620]]), (2649, [[2582, 2620], [2583, 2620], [2588,
    2620]]), (2654, [[2603, 2620]]), (2908, [[2849, 2876], [2850, 2876]]), (3635, [[3661, 3634]]),
    (3763, [[3789, 3762]]), (3804, [[3755, 3737], [3755, 3745]]), (3907, [[3906, 4023]]),
    (3917, [[3916, 4023]]), (3922, [[3921, 4023]]), (3927, [[3926, 4023]]), (3932, [[3931, 4023]]),
    (3945, [[3904, 4021]]), (3955, [[3953, 3954]]), (3957, [[3953, 3956], [4018, 3968], [4018,
    3953, 3968], [4019, 3968], [4019, 3953, 3968]]), (3969, [[3953, 3968]]), (3987, [[3986,
    4023]]), (3997, [[3996, 4023]]), (4002, [[4001, 4023]]), (4007, [[4006, 4023]]), (4012, [[4011,
    4023]]), (4025, [[3984, 4021]]), (7834, [[97, 702]]), (8049, [[945, 769]]), (8051, [[949,
    769]]), (8053, [[951, 769]]), (8055, [[953, 769]]), (8057, [[959, 769]]), (8059, [[965, 769]]),
    (8061, [[969, 769]]), (8123, [[913, 769]]), (8137, [[917, 769]]), (8139, [[919, 769]]),
    (8147, [[953, 776, 769]]), (8155, [[921, 769]]), (8163, [[965, 776, 769]]), (8171, [[933,
    769]]), (8185, [[927, 769]]), (8187, [[937, 769]]), (8491, [[65, 778]]), (8545, [[73, 73], [73,
    73, 73], [73, 86]]), (8549, [[86, 73], [86, 73, 73], [86, 73, 73, 73], [73, 88]]), (8554, [[88,
    73], [88, 73, 73]]), (8561, [[105, 105], [105, 105, 105], [105, 118]]), (8565, [[118, 105],
    [118, 105, 105], [118, 105, 105, 105], [105, 120]]), (8570, [[120, 105], [120, 105, 105]]),
    (12447, [[12424, 12426]]), (12543, [[12467, 12488]]), (64256, [[102, 102], [102, 105], [102,
    108], [102, 102, 105], [102, 102, 108], [115, 116], [115, 116]]), (64275, [[1396, 1398], [1396,
    1381], [1396, 1387], [1406, 1398], [1396, 1389]]), (64285, [[1497, 1460]]), (64287, [[1522,
    1463]]), (64298, [[1513, 1473], [1513, 1474], [1513, 1468, 1473], [1513, 1468, 1474], [1488,
    1463], [1488, 1464], [1488, 1468], [1489, 1468], [1490, 1468], [1491, 1468], [1492, 1468],
    [1493, 1468], [1494, 1468]]), (64312, [[1496, 1468], [1497, 1468], [1498, 1468], [1499, 1468],
    [1500, 1468]]), (64318, [[1502, 1468]]), (64320, [[1504, 1468], [1505, 1468]]), (64323, [[1507,
    1468], [1508, 1468]]), (64326, [[1510, 1468], [1511, 1468], [1512, 1468], [1513, 1468], [1514,
    1468], [1493, 1465], [1489, 1471], [1499, 1471], [1508, 1471], [1488, 1500]]), (64420, [[1749,
    1620], [1749, 1620]]), (64432, [[1746, 1620], [1746, 1620]]), (64477, [[1735, 1652]]),
    (64490, [[1610, 1620, 1575], [1610, 1620, 1575], [1610, 1620, 1749], [1610, 1620, 1749], [1610,
    1620, 1608], [1610, 1620, 1608], [1610, 1620, 1735], [1610, 1620, 1735], [1610, 1620, 1734],
    [1610, 1620, 1734], [1610, 1620, 1736], [1610, 1620, 1736], [1610, 1620, 1744], [1610, 1620,
    1744], [1610, 1620, 1744], [1610, 1620, 1609], [1610, 1620, 1609], [1610, 1620, 1609]]),
    (64512, [[1610, 1620, 1580], [1610, 1620, 1581], [1610, 1620, 1605], [1610, 1620, 1609], [1610,
    1620, 1610], [1576, 1580], [1576, 1581], [1576, 1582], [1576, 1605], [1576, 1609], [1576,
    1610], [1578, 1580], [1578, 1581], [1578, 1582], [1578, 1605], [1578, 1609], [1578, 1610],
    [1579, 1580], [1579, 1605], [1579, 1609], [1579, 1610], [1580, 1581], [1580, 1605], [1581,
    1580], [1581, 1605], [1582, 1580], [1582, 1581], [1582, 1605], [1587, 1580], [1587, 1581],
    [1587, 1582], [1587, 1605], [1589, 1581], [1589, 1605], [1590, 1580], [1590, 1581], [1590,
    1582], [1590, 1605], [1591, 1581], [1591, 1605], [1592, 1605], [1593, 1580], [1593, 1605],
    [1594, 1580], [1594, 1605], [1601, 1580], [1601, 1581], [1601, 1582], [1601, 1605], [1601,
    1609], [1601, 1610], [1602, 1581], [1602, 1605], [1602, 1609], [1602, 1610], [1603, 1575],
    [1603, 1580], [1603, 1581], [1603, 1582], [1603, 1604], [1603, 1605], [1603, 1609], [1603,
    1610], [1604, 1580], [1604, 1581], [1604, 1582], [1604, 1605], [1604, 1609], [1604, 1610],
    [1605, 1580], [1605, 1581], [1605, 1582], [1605, 1605], [1605, 1609], [1605, 1610], [1606,
    1580], [1606, 1581], [1606, 1582], [1606, 1605], [1606, 1609], [1606, 1610], [1607, 1580],
    [1607, 1605], [1607, 1609], [1607, 1610], [1610, 1580], [1610, 1581], [1610, 1582], [1610,
    1605], [1610, 1609], [1610, 1610], [1584, 1648], [1585, 1648], [1609, 1648]]), (64612, [[1610,
    1620, 1585], [1610, 1620, 1586], [1610, 1620, 1605], [1610, 1620, 1606], [1610, 1620, 1609],
    [1610, 1620, 1610], [1576, 1585], [1576, 1586], [1576, 1605], [1576, 1606], [1576, 1609],
    [1576, 1610], [1578, 1585], [1578, 1586], [1578, 1605], [1578, 1606], [1578, 1609], [1578,
    1610], [1579, 1585], [1579, 1586], [1579, 1605], [1579, 1606], [1579, 1609], [1579, 1610],
    [1601, 1609], [1601, 1610], [1602, 1609], [1602, 1610], [1603, 1575], [1603, 1604], [1603,
    1605], [1603, 1609], [1603, 1610], [1604, 1605], [1604, 1609], [1604, 1610], [1605, 1575],
    [1605, 1605], [1606, 1585], [1606, 1586], [1606, 1605], [1606, 1606], [1606, 1609], [1606,
    1610], [1609, 1648], [1610, 1585], [1610, 1586], [1610, 1605], [1610, 1606], [1610, 1609],
    [1610, 1610], [1610, 1620, 1580], [1610, 1620, 1581], [1610, 1620, 1582], [1610, 1620, 1605],
    [1610, 1620, 1607], [1576, 1580], [1576, 1581], [1576, 1582], [1576, 1605], [1576, 1607],
    [1578, 1580], [1578, 1581], [1578, 1582], [1578, 1605], [1578, 1607], [1579, 1605], [1580,
    1581], [1580, 1605], [1581, 1580], [1581, 1605], [1582, 1580], [1582, 1605], [1587, 1580],
    [1587, 1581], [1587, 1582], [1587, 1605], [1589, 1581], [1589, 1582], [1589, 1605], [1590,
    1580], [1590, 1581], [1590, 1582], [1590, 1605], [1591, 1581], [1592, 1605], [1593, 1580],
    [1593, 1605], [1594, 1580], [1594, 1605], [1601, 1580], [1601, 1581], [1601, 1582], [1601,
    1605], [1602, 1581], [1602, 1605], [1603, 1580], [1603, 1581], [1603, 1582], [1603, 1604],
    [1603, 1605], [1604, 1580], [1604, 1581], [1604, 1582], [1604, 1605], [1604, 1607], [1605,
    1580], [1605, 1581], [1605, 1582], [1605, 1605], [1606, 1580], [1606, 1581], [1606, 1582],
    [1606, 1605], [1606, 1607], [1607, 1580], [1607, 1605], [1607, 1648], [1610, 1580], [1610,
    1581], [1610, 1582], [1610, 1605], [1610, 1607], [1610, 1620, 1605], [1610, 1620, 1607], [1576,
    1605], [1576, 1607], [1578, 1605], [1578, 1607], [1579, 1605], [1579, 1607], [1587, 1605],
    [1587, 1607], [1588, 1605], [1588, 1607], [1603, 1604], [1603, 1605], [1604, 1605], [1606,
    1605], [1606, 1607], [1610, 1605], [1610, 1607], [1600, 1614, 1617], [1600, 1615, 1617], [1600,
    1616, 1617], [1591, 1609], [1591, 1610], [1593, 1609], [1593, 1610], [1594, 1609], [1594,
    1610], [1587, 1609], [1587, 1610], [1588, 1609], [1588, 1610], [1581, 1609], [1581, 1610],
    [1580, 1609], [1580, 1610], [1582, 1609], [1582, 1610], [1589, 1609], [1589, 1610], [1590,
    1609], [1590, 1610], [1588, 1580], [1588, 1581], [1588, 1582], [1588, 1605], [1588, 1585],
    [1587, 1585], [1589, 1585], [1590, 1585], [1591, 1609], [1591, 1610], [1593, 1609], [1593,
    1610], [1594, 1609], [1594, 1610], [1587, 1609], [1587, 1610], [1588, 1609], [1588, 1610],
    [1581, 1609], [1581, 1610], [1580, 1609], [1580, 1610], [1582, 1609], [1582, 1610], [1589,
    1609], [1589, 1610], [1590, 1609], [1590, 1610], [1588, 1580], [1588, 1581], [1588, 1582],
    [1588, 1605], [1588, 1585], [1587, 1585], [1589, 1585], [1590, 1585], [1588, 1580], [1588,
    1581], [1588, 1582], [1588, 1605], [1587, 1607], [1588, 1607], [1591, 1605], [1587, 1580],
    [1587, 1581], [1587, 1582], [1588, 1580], [1588, 1581], [1588, 1582], [1591, 1605], [1592,
    1605], [1575, 1611], [1575, 1611]]), (64848, [[1578, 1580, 1605], [1578, 1581, 1580], [1578,
    1581, 1580], [1578, 1581, 1605], [1578, 1582, 1605], [1578, 1605, 1580], [1578, 1605, 1581],
    [1578, 1605, 1582], [1580, 1605, 1581], [1580, 1605, 1581], [1581, 1605, 1610], [1581, 1605,
    1609], [1587, 1581, 1580], [1587, 1580, 1581], [1587, 1580, 1609], [1587, 1605, 1581], [1587,
    1605, 1581], [1587, 1605, 1580], [1587, 1605, 1605], [1587, 1605, 1605], [1589, 1581, 1581],
    [1589, 1581, 1581], [1589, 1605, 1605], [1588, 1581, 1605], [1588, 1581, 1605], [1588, 1580,
    1610], [1588, 1605, 1582], [1588, 1605, 1582], [1588, 1605, 1605], [1588, 1605, 1605], [1590,
    1581, 1609], [1590, 1582, 1605], [1590, 1582, 1605], [1591, 1605, 1581], [1591, 1605, 1581],
    [1591, 1605, 1605], [1591, 1605, 1610], [1593, 1580, 1605], [1593, 1605, 1605], [1593, 1605,
    1605], [1593, 1605, 1609], [1594, 1605, 1605], [1594, 1605, 1610], [1594, 1605, 1609], [1601,
    1582, 1605], [1601, 1582, 1605], [1602, 1605, 1581], [1602, 1605, 1605], [1604, 1581, 1605],
    [1604, 1581, 1610], [1604, 1581, 1609], [1604, 1580, 1580], [1604, 1580, 1580], [1604, 1582,
    1605], [1604, 1582, 1605], [1604, 1605, 1581], [1604, 1605, 1581], [1605, 1581, 1580], [1605,
    1581, 1605], [1605, 1581, 1610], [1605, 1580, 1581], [1605, 1580, 1605], [1605, 1582, 1580],
    [1605, 1582, 1605]]), (64914, [[1605, 1580, 1582], [1607, 1605, 1580], [1607, 1605, 1605],
    [1606, 1581, 1605], [1606, 1581, 1609], [1606, 1580, 1605], [1606, 1580, 1605], [1606, 1580,
    1609], [1606, 1605, 1610], [1606, 1605, 1609], [1610, 1605, 1605], [1610, 1605, 1605], [1576,
    1582, 1610], [1578, 1580, 1610], [1578, 1580, 1609], [1578, 1582, 1610], [1578, 1582, 1609],
    [1578, 1605, 1610], [1578, 1605, 1609], [1580, 1605, 1610], [1580, 1581, 1609], [1580, 1605,
    1609], [1587, 1582, 1609], [1589, 1581, 1610], [1588, 1581, 1610], [1590, 1581, 1610], [1604,
    1580, 1610], [1604, 1605, 1610], [1610, 1581, 1610], [1610, 1580, 1610], [1610, 1605, 1610],
    [1605, 1605, 1610], [1602, 1605, 1610], [1606, 1581, 1610], [1602, 1605, 1581], [1604, 1581,
    1605], [1593, 1605, 1610], [1603, 1605, 1610], [1606, 1580, 1581], [1605, 1582, 1610], [1604,
    1580, 1605], [1603, 1605, 1605], [1604, 1580, 1605], [1606, 1580, 1581], [1580, 1581, 1610],
    [1581, 1580, 1610], [1605, 1580, 1610], [1601, 1605, 1610], [1576, 1581, 1610], [1603, 1605,
    1605], [1593, 1580, 1605], [1589, 1605, 1605], [1587, 1582, 1610], [1606, 1580, 1610]]),
    (65008, [[1589, 1604, 1746], [1602, 1604, 1746], [1575, 1604, 1604, 1607], [1575, 1603, 1576,
    1585], [1605, 1581, 1605, 1583], [1589, 1604, 1593, 1605], [1585, 1587, 1608, 1604], [1593,
    1604, 1610, 1607], [1608, 1587, 1604, 1605], [1589, 1604, 1609]]), (65137, [[1600, 1611]]),
    (65143, [[1600, 1614]]), (65145, [[1600, 1615]]), (65147, [[1600, 1616]]), (65149, [[1600,
    1617]]), (65151, [[1600, 1618]]), (65153, [[1575, 1619], [1575, 1619], [1575, 1620], [1575,
    1620], [1608, 1620], [1608, 1620], [1575, 1621], [1575, 1621], [1610, 1620], [1610, 1620],
    [1610, 1620], [1610, 1620]]), (65269, [[1604, 1575, 1619], [1604, 1575, 1619], [1604, 1575,
    1620], [1604, 1575, 1620], [1604, 1575, 1621], [1604, 1575, 1621], [1604, 1575], [1604,
    1575]])]

end Stencil.Compatibility
